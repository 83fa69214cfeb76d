import JsonSchema.Proofs.Reference.Closure

namespace JsonSchema.Edge

variable {references front front' back rest : List Edge} {e e' first first' next composed : Edge}
  {tokens : List String}

-- The steps of a path from the target of each of its references to the source of the next one.
def passage : Edge → List Edge → List String
  | _, [] => []
  | e, next :: rest => (next.source.after? e.target).getD [] ++ passage next rest

-- A path as one edge.
def composite (first : Edge) (rest : List Edge) : Edge :=
  ⟨first.source.append (passage first rest), (rest.getLastD first).target⟩

theorem passage_congr (h : e.target = e'.target) (rest : List Edge) :
    passage e rest = passage e' rest := by
  cases rest <;> simp only [passage, h]

theorem passage_append (e : Edge) (front back : List Edge) :
    passage e (front ++ back) = passage e front ++ passage (front.getLastD e) back := by
  induction front generalizing e with
  | nil => rfl
  | cons next front ih =>
    simp only [List.cons_append, passage, ih, List.append_assoc, List.getLastD_cons]

@[simp]
theorem composite_nil (e : Edge) : composite e [] = e := by simp [composite, passage]

theorem composite_append (e : Edge) (front back : List Edge) :
    composite e (front ++ back) = composite (composite e front) back := by
  have ht : (composite e front).target = (front.getLastD e).target := rfl
  simp only [composite, mk.injEq]
  constructor
  case left  => rw [passage_append, ← Pointer.append_append, passage_congr ht.symm]; rfl
  case right =>
    simp only [List.getLastD_eq_getLast?, List.getLast?_append]
    cases back.getLast? <;> rfl

theorem composite_cons (e next : Edge) (rest : List Edge) :
    composite e (next :: rest) = composite (composite e [next]) rest :=
  composite_append e [next] rest

theorem isWithin_composite (e : Edge) (rest : List Edge) :
    (composite e rest).source.isWithin e.source = true :=
  Pointer.append_isWithin ..

theorem passage_cons (h : next.source = e.target.append tokens) (rest : List Edge) :
    passage e (next :: rest) = tokens ++ passage next rest := by
  simp [passage, h, Pointer.after?, Pointer.append, Pointer.depth]

theorem passage_singleton (h : next.source = e.target.append tokens) : passage e [next] = tokens := by
  rw [passage_cons h, passage, List.append_nil]

theorem compose?_eq_some_iff :
    e.compose? next = some composed ↔
      next.source.isWithin e.target = true ∧ composed = composite e [next] := by
  rw [compose?_eq_some, Pointer.isWithin_iff_exists]
  constructor
  case mp =>
    rintro ⟨tokens, hs, rfl⟩
    exact ⟨⟨tokens, hs⟩, by rw [composite, passage_singleton hs]; rfl⟩
  case mpr =>
    rintro ⟨⟨tokens, hs⟩, rfl⟩
    exact ⟨tokens, hs, by rw [composite, passage_singleton hs]; rfl⟩

-- Every reference after the first one lies in the target of the edge up to it, which is not recursive.
def Continues (first : Edge) (rest : List Edge) : Prop :=
  ∀ front next back, rest = front ++ next :: back →
    (composite first front).isRecursive = false ∧
      next.source.isWithin (composite first front).target = true

-- References one after the other, none of them twice. Each lies in the target of the one before, and none
-- comes after the route is back where it started.
structure Route (references : List Edge) (first : Edge) (rest : List Edge) : Prop where
  among     : ∀ e ∈ first :: rest, e ∈ references
  distinct  : (first :: rest).Nodup
  continues : Continues first rest

theorem continues_nil : Continues e [] := by
  intro front next back h
  simp at h

theorem continues_cons : Continues e (next :: rest) ↔
    (e.isRecursive = false ∧ next.source.isWithin e.target = true) ∧
      Continues (composite e [next]) rest := by
  constructor
  case mp =>
    intro h
    refine ⟨by simpa using h [] next rest rfl, fun front last back he => ?_⟩
    have := h (next :: front) last back (congrArg _ he)
    rwa [composite_cons] at this
  case mpr =>
    rintro ⟨hn, hr⟩ front last back he
    cases front with
    | nil =>
      obtain ⟨rfl, rfl⟩ := List.cons.inj he
      simpa using hn
    | cons x front =>
      obtain ⟨rfl, hrest⟩ := List.cons.inj he
      rw [composite_cons]
      exact hr front last back hrest

theorem continues_append :
    Continues e (front ++ back) ↔ Continues e front ∧ Continues (composite e front) back := by
  induction front generalizing e with
  | nil => simp [continues_nil]
  | cons next front ih =>
    rw [List.cons_append, continues_cons, ih, continues_cons, composite_cons e next front]
    exact and_assoc.symm

instance decidableContinues : (first : Edge) → (rest : List Edge) → Decidable (Continues first rest)
  | _, [] => .isTrue continues_nil
  | first, next :: rest =>
    have := decidableContinues (composite first [next]) rest
    decidable_of_iff _ continues_cons.symm

instance : Decidable (Route references first rest) :=
  decidable_of_iff ((∀ e ∈ first :: rest, e ∈ references) ∧ (first :: rest).Nodup ∧ Continues first rest)
    ⟨fun ⟨ha, hd, hc⟩ => ⟨ha, hd, hc⟩, fun ⟨ha, hd, hc⟩ => ⟨ha, hd, hc⟩⟩

namespace Route

theorem single (h : e ∈ references) : Route references e [] where
  among     := by simpa using h
  distinct  := by simp
  continues := continues_nil

theorem initial (h : Route references first (front ++ back)) : Route references first front where
  among     := fun e he => h.among e (List.mem_append_left back he)
  distinct  := (List.nodup_append.mp (by simpa using h.distinct : (first :: front ++ back).Nodup)).left
  continues := (continues_append.mp h.continues).left

theorem concat (h : Route references first front) (hm : next ∈ references) (hn : next ∉ first :: front)
    (hr : (composite first front).isRecursive = false)
    (hc : (composite first front).compose? next = some composed) :
    Route references first (front ++ [next]) ∧ composed = composite first (front ++ [next]) := by
  obtain ⟨hw, rfl⟩ := compose?_eq_some_iff.mp hc
  refine ⟨⟨?among, ?distinct, ?continues⟩, (composite_append ..).symm⟩
  case among =>
    intro e he
    rw [← List.cons_append, List.mem_append, List.mem_singleton] at he
    exact he.elim (h.among e) fun he => he ▸ hm
  case distinct =>
    rw [← List.cons_append]
    exact List.nodup_append.mpr ⟨h.distinct, by simp, fun a ha b hb hab =>
      hn (List.mem_singleton.mp hb ▸ hab ▸ ha)⟩
  case continues =>
    exact continues_append.mpr ⟨h.continues, continues_cons.mpr ⟨⟨hr, hw⟩, continues_nil⟩⟩

theorem not_mem_of_mem (h : Route references first (front ++ back)) (he : e ∈ back) :
    e ∉ first :: front := by
  have hd : (first :: front ++ back).Nodup := by simpa using h.distinct
  exact fun hm => (List.nodup_append.mp hd).right.right e hm e he rfl

theorem compose? (h : Route references first (front ++ next :: back)) :
    next ∈ references ∧ next ∉ first :: front ∧ (composite first front).isRecursive = false ∧
      (composite first front).compose? next = some (composite first (front ++ [next])) := by
  obtain ⟨hr, hw⟩ := h.continues front next back rfl
  exact ⟨h.among next (by simp), h.not_mem_of_mem List.mem_cons_self, hr,
    compose?_eq_some_iff.mpr ⟨hw, composite_append ..⟩⟩

theorem shortcut (h : Route references first (front ++ back)) (h' : Route references first' front')
    (hc : composite first' front' = composite first front) (hd : ∀ e ∈ back, e ∉ first' :: front') :
    Route references first' (front' ++ back) ∧
      composite first' (front' ++ back) = composite first (front ++ back) := by
  have hn : (first :: front ++ back).Nodup := by simpa using h.distinct
  refine ⟨⟨?among, ?distinct, ?continues⟩, by rw [composite_append, hc, composite_append]⟩
  case among =>
    intro e he
    rw [← List.cons_append, List.mem_append] at he
    exact he.elim (h'.among e) fun he => h.among e (by simp [he])
  case distinct =>
    rw [← List.cons_append]
    refine List.nodup_append.mpr ⟨h'.distinct, (List.nodup_append.mp hn).right.left, ?_⟩
    rintro a ha b hb rfl
    exact hd a hb ha
  case continues =>
    exact continues_append.mpr ⟨h'.continues, hc ▸ (continues_append.mp h.continues).right⟩

-- A reference that is the edge up to some place of a route does not come after it: it would lie in the
-- target of an edge that begins inside its source, and such an edge is recursive.
theorem composite_not_mem (h : Route references first (front ++ back)) :
    composite first front ∉ back := by
  intro hm
  obtain ⟨before, after, rfl⟩ := List.append_of_mem hm
  obtain ⟨hr, hw⟩ := (continues_append.mp h.continues).right before _ after rfl
  have := Pointer.isWithin_trans (isWithin_composite (composite first front) before) hw
  simp [isRecursive, this] at hr

end Route

end JsonSchema.Edge

import Mathlib.Data.List.Perm.Basic
import JsonSchema.Proofs.Json.Calling
import JsonSchema.Proofs.Json.Lookup
import JsonSchema.Proofs.Json.Parts

namespace JsonSchema.Json

open Calling (ask run_pure run_ask run_bind run_map Continues Reaches)

variable {σ ε ε' : Type} {levels more : Nat} {place start : Pointer} {j tree v : Json} {fields rebuilt : Fields}
variable {places : List Pointer}

inductive Traversal
  | pre
  | post

-- A walk from the leaves up needs no limit.
def walk {m : Type → Type} [Monad m] (order : Traversal) (levels : Nat) (f : Json → Pointer → m Json)
    (start : Pointer) (tree : Json) : m (Option Json) :=
  match order with
  | .pre  => mapPre f levels start tree
  | .post => some <$> mapPost f start tree

def Visitor.record (f : Visitor σ ε) (order : Traversal) (levels : Nat) (start : Pointer) (tree : Json) (s : σ) :
    Record σ ε (Option Json) :=
  let (result, state, visits) := (walk order levels f.recorded start tree).run.run (s, [])
  { result, state, visits }

section Run

variable {m : Type → Type} [Monad m] [LawfulMonad m] (f : Json → Pointer → m Json)

theorem run_mapPostFields {place : Pointer} {fields : Fields}
    (h : ∀ key j, (key, j) ∈ fields → (mapPost ask (place.child key) j).run f = mapPost f (place.child key) j) :
    (mapPostFields ask place fields).run f = mapPostFields f place fields := by
  induction fields with
  | nil => rfl
  | cons field rest ih =>
    have hj := h field.1 field.2 List.mem_cons_self
    have hr := ih fun key j hm => h key j (List.mem_cons_of_mem _ hm)
    simp only [mapPostFields, run_bind, run_pure, hj, hr]

theorem run_mapPost (place : Pointer) (j : Json) : (mapPost ask place j).run f = mapPost f place j := by
  induction j using induct_parts generalizing place with
  | node j ih =>
    have hp := run_mapPostFields f fun key part hm => ih key part hm (place.child key)
    simp only [mapPost_eq_bind, run_bind, run_ask, hp]

theorem run_mapFields {rebuild : Pointer → Json → Calling (Option Json)}
    {rebuildBy : Pointer → Json → m (Option Json)} (h : ∀ place j, (rebuild place j).run f = rebuildBy place j)
    (place : Pointer) (fields : Fields) :
    (mapFields rebuild place fields).run f = mapFields rebuildBy place fields := by
  induction fields with
  | nil => rfl
  | cons field rest ih =>
    simp only [mapFields, run_bind, h]
    refine bind_congr fun rebuilt => ?_
    cases rebuilt with
    | none   => rfl
    | some _ => simp only [run_bind, run_pure, ih]

theorem run_mapPre (levels : Nat) (place : Pointer) (j : Json) :
    (mapPre ask levels place j).run f = mapPre f levels place j := by
  induction levels generalizing place j with
  | zero           => rfl
  | succ levels ih => simp only [mapPre_succ_eq_bind, run_bind, run_ask, run_map, run_mapFields f ih]

theorem run_walk (order : Traversal) (levels : Nat) (start : Pointer) (tree : Json) :
    (walk order levels ask start tree).run f = walk order levels f start tree := by
  cases order
  case pre  => exact run_mapPre f levels start tree
  case post => rw [walk, run_map, run_mapPost, walk]

end Run

theorem continues_mapFields {first second : Pointer → Json → Calling (Option Json)}
    (h : ∀ place j, (first place j).Continues (second place j)) (place : Pointer) (fields : Fields) :
    (mapFields first place fields).Continues (mapFields second place fields) := by
  induction fields with
  | nil => exact .done []
  | cons field rest ih =>
    exact (h (place.child field.1) field.2).bind rfl fun _ => ih.map _

theorem continues_mapPre (h : levels ≤ more) (place : Pointer) (j : Json) :
    (mapPre ask levels place j).Continues (mapPre ask more place j) := by
  induction levels generalizing more place j with
  | zero => exact .limit _
  | succ levels ih =>
    obtain ⟨more, rfl⟩ := Nat.exists_eq_add_of_lt h
    rw [mapPre_succ_eq_bind, mapPre_succ_eq_bind]
    exact .call fun v => (continues_mapFields (ih (Nat.le_add_right ..)) place v.parts).map _

theorem reaches_mapFields {rebuild : Pointer → Json → Calling (Option Json)}
    (hr : ∀ {place j places v}, (rebuild place j).Reaches places (some v) → places = (v.nodes place).map (·.1))
    (h : (mapFields rebuild place fields).Reaches places (some rebuilt)) :
    rebuilt.map (·.1) = fields.map (·.1) ∧
      places = (rebuilt.flatMap fun part => part.2.nodes (place.child part.1)).map (·.1) := by
  induction fields generalizing places rebuilt with
  | nil =>
    obtain ⟨rfl, h⟩ := h.of_pure
    cases h
    exact ⟨rfl, rfl⟩
  | cons field rest ih =>
    obtain ⟨front, back, v, rfl, hv, h⟩ := h.of_bind
    cases v with
    | none   => cases h.of_pure.right
    | some v =>
      obtain ⟨others, ho, he⟩ := Reaches.of_map h
      obtain ⟨others, rfl, rfl⟩ := Option.map_eq_some_iff.mp he
      obtain ⟨hk, rfl⟩ := ih ho
      exact ⟨congrArg (field.1 :: ·) hk, by rw [hr hv, List.flatMap_cons, List.map_append]⟩

theorem reaches_mapPre (h : (mapPre ask levels place j).Reaches places (some v)) :
    places = (v.nodes place).map (·.1) := by
  induction levels generalizing place j places v with
  | zero => cases h.of_pure.right
  | succ levels ih =>
    rw [mapPre_succ_eq_bind] at h
    cases h with
    | call h =>
      obtain ⟨rebuilt, hr, he⟩ := Reaches.of_map h
      obtain ⟨parts, rfl, rfl⟩ := Option.map_eq_some_iff.mp he
      obtain ⟨hk, rfl⟩ := reaches_mapFields ih hr
      rw [nodes_eq_flatMap, parts_withParts hk]
      rfl

theorem sizeOf_lt_of_mem_parts {part : String × Json} (h : part ∈ j.parts) : sizeOf part.2 < sizeOf j := by
  obtain ⟨token, part⟩ := part
  cases j
  case array items =>
    obtain ⟨i, _, hi⟩ := mem_parts_array.mp h
    have := List.sizeOf_lt_of_mem (List.mem_of_getElem? hi)
    simp only [array.sizeOf_spec]
    omega
  case object fields =>
    have hm : (token, part) ∈ fields := h
    have := List.sizeOf_lt_of_mem hm
    simp only [object.sizeOf_spec, Prod.mk.sizeOf_spec] at this ⊢
    omega
  all_goals simp [parts] at h

-- The places of all nodes, each behind those of the nodes inside it.
def ascent (place : Pointer) (j : Json) : List Pointer :=
  j.parts.attach.flatMap (fun ⟨part, _⟩ => part.2.ascent (place.child part.1)) ++ [place]
termination_by sizeOf j
decreasing_by exact sizeOf_lt_of_mem_parts ‹_›

theorem ascent_eq_flatMap (place : Pointer) (j : Json) :
    j.ascent place = j.parts.flatMap (fun part => part.2.ascent (place.child part.1)) ++ [place] := by
  rw [ascent, List.flatMap_subtype fun _ _ => rfl, List.unattach_attach]

theorem ascent_perm (place : Pointer) (j : Json) : (j.ascent place).Perm ((j.nodes place).map (·.1)) := by
  induction j using induct_parts generalizing place with
  | node j ih =>
    rw [ascent_eq_flatMap, nodes_eq_flatMap, List.map_cons, List.map_flatMap]
    refine (List.perm_append_singleton _ _).trans (.cons _ ?_)
    exact .flatMap_left _ fun part hp => ih part.1 part.2 hp _

theorem isWithin_of_mem_ascent {p : Pointer} (h : p ∈ j.ascent place) : p.isWithin place = true := by
  obtain ⟨_, hm, rfl⟩ := List.mem_map.mp ((ascent_perm place j).mem_iff.mp h)
  exact isWithin_of_mem_nodes hm

theorem pairwise_ascent (hw : j.WellFormed) : (j.ascent place).Pairwise fun p q => q.isWithin p = false := by
  induction j using induct_parts generalizing place with
  | node j ih =>
    rw [ascent_eq_flatMap, List.pairwise_append, List.pairwise_flatMap]
    refine ⟨⟨fun part hp => ih part.1 part.2 hp (hw.of_mem_parts hp), ?apart⟩, List.pairwise_singleton .., ?last⟩
    case apart =>
      refine (hw.pairwise_apart place).imp fun ha p hp q hq => ?_
      exact (ha (isWithin_of_mem_ascent hp) (isWithin_of_mem_ascent hq)).right
    case last =>
      intro p hp q hq
      obtain ⟨part, _, hp⟩ := List.mem_flatMap.mp hp
      cases List.mem_singleton.mp hq
      exact isWithin_eq_false_of_child (isWithin_of_mem_ascent hp)

theorem reaches_mapPostFields {mapped : Fields}
    (hr : ∀ key j, (key, j) ∈ fields → ∀ {places v}, (mapPost ask (place.child key) j).Reaches places v →
      places = j.ascent (place.child key))
    (h : (mapPostFields ask place fields).Reaches places mapped) :
    places = fields.flatMap fun field => field.2.ascent (place.child field.1) := by
  induction fields generalizing places mapped with
  | nil => exact h.of_pure.left
  | cons field rest ih =>
    obtain ⟨front, back, v, rfl, hv, h⟩ := h.of_bind
    obtain ⟨back, _, others, rfl, ho, h⟩ := h.of_bind
    obtain ⟨rfl, _⟩ := h.of_pure
    have hf := hr field.1 field.2 List.mem_cons_self hv
    have hb := ih (fun key j hm => hr key j (List.mem_cons_of_mem _ hm)) ho
    rw [hf, hb, List.append_nil, List.flatMap_cons]

theorem reaches_mapPost (h : (mapPost ask place j).Reaches places v) : places = j.ascent place := by
  induction j using induct_parts generalizing place places v with
  | node j ih =>
    rw [mapPost_eq_bind] at h
    obtain ⟨front, back, parts, rfl, hp, h⟩ := h.of_bind
    cases h with
    | call h =>
      cases h
      rw [ascent_eq_flatMap, reaches_mapPostFields (fun key part hm => ih key part hm) hp]

theorem continues_walk (order : Traversal) (h : levels ≤ more) (start : Pointer) (tree : Json) :
    (walk order levels ask start tree).Continues (walk order more ask start tree) := by
  cases order
  case pre  => exact continues_mapPre h start tree
  case post => exact .refl _

theorem record_eq (f : Visitor σ ε) (order : Traversal) (levels : Nat) (start : Pointer) (tree : Json) (s : σ) :
    f.record order levels start tree s = (walk order levels ask start tree).record f s := by
  rw [Visitor.record, ← run_walk, Calling.run_recorded]
  rfl

-- The calls are recorded without a change to what a walk does.
theorem run_walk_eq (f : Visitor σ ε) (order : Traversal) (levels : Nat) (start : Pointer) (tree : Json) (s : σ) :
    (walk order levels f start tree).run.run s =
      ((f.record order levels start tree s).result, (f.record order levels start tree s).state) := by
  rw [← run_walk, Calling.run_eq, record_eq]

theorem visits_post (f : Visitor σ ε) (levels : Nat) (start : Pointer) (tree : Json) (s : σ) :
    (∃ e, (f.record .post levels start tree s).result = .error e) ∨
      (∃ v, (f.record .post levels start tree s).result = .ok (some v)) ∧
      (f.record .post levels start tree s).visits.map (·.place) = tree.ascent start := by
  rw [record_eq]
  match hr : ((walk .post levels ask start tree).record f s).result with
  | .error e => exact .inl ⟨e, rfl⟩
  | .ok v =>
    obtain ⟨v, h, rfl⟩ := Reaches.of_map (g := some) (Calling.reaches_record hr)
    exact .inr ⟨⟨v, rfl⟩, reaches_mapPost h⟩

theorem visits_post_isPrefix (f : Visitor σ ε) (levels : Nat) (start : Pointer) (tree : Json) (s : σ) :
    (f.record .post levels start tree s).visits.map (·.place) <+: tree.ascent start := by
  rw [record_eq]
  obtain ⟨rest, v, h⟩ := Calling.exists_reaches_record f (walk .post levels ask start tree) s
  obtain ⟨v, h, _⟩ := Reaches.of_map (g := some) h
  exact ⟨rest, reaches_mapPost h⟩

theorem visits_pre {f : Visitor σ ε} {s : σ}
    (h : (f.record .pre levels start tree s).result = .ok (some v)) :
    (f.record .pre levels start tree s).visits.map (·.place) = (v.nodes start).map (·.1) := by
  rw [record_eq] at h ⊢
  exact reaches_mapPre (Calling.reaches_record h)

theorem record_of_le {order : Traversal} {f : Visitor σ ε} {s : σ} (h : levels ≤ more)
    (hn : (f.record order levels start tree s).result ≠ .ok none) :
    f.record order more start tree s = f.record order levels start tree s := by
  rw [record_eq] at hn
  rw [record_eq, record_eq]
  exact (continues_walk order h start tree).record_eq hn

theorem visits_prefix_of_extends {order : Traversal} {f : Visitor σ ε} {g : Visitor σ ε'} (h : levels ≤ more)
    (hg : g.Extends f) (start : Pointer) (tree : Json) (s : σ) :
    (f.record order levels start tree s).visits <+: (g.record order more start tree s).visits := by
  rw [record_eq, record_eq]
  exact (continues_walk order h start tree).visits_prefix_of_extends hg

-- In turn: from the leaves up, from the root down, and up to a failure, which a visitor that extends this
-- one may not meet.
theorem walk_visits (start : Pointer) (hw : tree.WellFormed) :
    (∃ places : List Pointer,
      places.Perm ((tree.nodes start).map (·.1)) ∧ places.Nodup ∧
      places.Pairwise (fun p q => q.isInside p = false) ∧
      ∀ (σ ε : Type) (f : Visitor σ ε) (levels : Nat) (s : σ),
        let r := f.record .post levels start tree s
        r.visits.map (·.place) <+: places ∧
        ((∃ e, r.result = .error e) ∨ (∃ v, r.result = .ok (some v)) ∧ r.visits.map (·.place) = places)) ∧
    (∀ (σ ε : Type) (f : Visitor σ ε) (levels : Nat) (s : σ) (v : Json),
      let r := f.record .pre levels start tree s
      r.result = .ok (some v) →
        r.visits.map (·.place) = (v.nodes start).map (·.1) ∧
        ∀ more, levels ≤ more → f.record .pre more start tree s = r) ∧
    ∀ (σ ε : Type) (f : Visitor σ ε) (order : Traversal) (levels : Nat) (s : σ) (e : ε),
      let r := f.record order levels start tree s
      r.result = .error e →
        (∃ (front : List (Call σ)) (last : Call σ), r.visits = front ++ [last] ∧
          f.answer last = (.error e, r.state) ∧ ∀ c ∈ front, ∃ v t, f.answer c = (.ok v, t)) ∧
        ∀ more, levels ≤ more → f.record order more start tree s = r ∧
          ∀ (ε' : Type) (g : Visitor σ ε'), g.Extends f →
            r.visits <+: (g.record order more start tree s).visits := by
  refine ⟨⟨tree.ascent start, ascent_perm start tree, ?once, ?order, fun σ ε f levels s => ?post⟩,
    fun σ ε f levels s v => ?pre, fun σ ε f order levels s e => ?failure⟩
  case once  => exact (ascent_perm start tree).nodup_iff.mpr (nodup_nodes hw)
  case order => exact (pairwise_ascent hw).imp fun h => by rw [Pointer.isInside, h, Bool.false_and]
  case post  => exact ⟨visits_post_isPrefix f levels start tree s, visits_post f levels start tree s⟩
  case pre =>
    intro r h
    exact ⟨visits_pre h, fun more hl => record_of_le hl (by simp [r, h])⟩
  case failure =>
    intro r h
    refine ⟨?_, fun more hl => ⟨record_of_le hl (by simp [r, h]), fun ε' g hg => ?_⟩⟩
    case refine_1 =>
      simp only [r, record_eq] at h ⊢
      exact Calling.exists_last_of_error h
    case refine_2 => exact visits_prefix_of_extends hl hg start tree s

def census : Visitor Nat String := fun node _ => do
  modify (· + 1)
  match node with
  | null => throw "null"
  | node => pure node

def shelf : Json :=
  object [("books", array [string "Emma", null, string "Persuasion"])]

theorem walk_visits_shelf :
    let r := census.record .pre 3 Pointer.root shelf 0
    shelf.WellFormed ∧ r.result = .error "null" ∧
      ∃ (front : List (Call Nat)) (last : Call Nat), r.visits = front ++ [last] ∧
        census.answer last = (.error "null", r.state) ∧ ∀ c ∈ front, ∃ v t, census.answer c = (.ok v, t) := by
  have hw : shelf.WellFormed := by decide
  have hr : (census.record .pre 3 Pointer.root shelf 0).result = .error "null" := rfl
  exact ⟨hw, hr, ((walk_visits Pointer.root hw).right.right Nat String census .pre 3 0 "null" hr).left⟩

end JsonSchema.Json

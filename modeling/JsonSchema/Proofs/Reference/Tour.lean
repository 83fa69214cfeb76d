import JsonSchema.Expansion
import JsonSchema.Proofs.Json.Walk
import JsonSchema.Proofs.Pointer.Within

namespace JsonSchema

open Expansion (Source)

-- A move follows a reference or takes a step.
abbrev Move := Option String

def steps (moves : List Move) : List String := moves.filterMap id

@[simp]
theorem steps_map_some (tokens : List String) : steps (tokens.map some) = tokens := by
  simp [steps]

@[simp]
theorem steps_replicate_none (n : Nat) : steps (List.replicate n none) = [] := by
  simp [steps]

theorem steps_append (ms ns : List Move) : steps (ms ++ ns) = steps ms ++ steps ns :=
  List.filterMap_append

theorem exists_last_none (ms : List Move) :
    none ∉ ms ∨ ∃ front back, ms = front ++ none :: back ∧ none ∉ back := by
  induction ms with
  | nil => simp
  | cons m ms ih =>
    cases ih
    case inr h =>
      obtain ⟨front, back, rfl, hn⟩ := h
      exact .inr ⟨m :: front, back, rfl, hn⟩
    case inl hn =>
      cases m with
      | none       => exact .inr ⟨[], ms, rfl, hn⟩
      | some token => exact .inl (by simpa using hn)

-- Where a tour is. The references that have been followed are its edges. From the target of a recursive
-- reference the expansion goes on with the shorter equivalent, and does not look at what is in between.
structure Visit where
  path  : Pointer
  used  : List Pointer
  place : Pointer
  node  : Pointer
  edges : List Edge
  skips : Bool

namespace Visit

def start : Visit := ⟨.root, [.root], .root, .root, [], false⟩

section Moves

variable (s : Source) (v : Visit)

def jump? : Option Visit :=
  (s.schema.targetAt? v.node).map fun target =>
    { v with
      used  := if v.skips then v.used else v.used ++ s.pointersOf target
      place := if v.skips then v.place else target
      node  := target
      edges := v.edges ++ [⟨v.node, target⟩]
      skips := v.skips || decide (s.shorten target ≠ target) }

def step? (token : String) : Option Visit :=
  if s.schema.targetAt? v.node = none ∧ (s.schema.get? (v.node.child token)).isSome then
    some { v with
      path  := v.path.child token
      place := v.place.child token
      node  := v.node.child token
      skips := false }
  else
    none

def move? : Move → Option Visit
  | none       => v.jump? s
  | some token => v.step? s token

end Moves

def run? (s : Source) : Visit → List Move → Option Visit
  | v, []      => some v
  | v, m :: ms => (v.move? s m).bind (run? s · ms)

variable {s : Source} {u v w : Visit} {m : Move} {ms ns : List Move} {token : String}

theorem jump?_eq_some (h : v.jump? s = some w) :
    ∃ target, s.schema.targetAt? v.node = some target ∧ w.path = v.path ∧ w.node = target ∧
      w.edges = v.edges ++ [⟨v.node, target⟩] ∧
      (v.skips = false → w.used = v.used ++ s.pointersOf target ∧ w.place = target ∧
        (w.skips = true ↔ s.shorten target ≠ target)) ∧
      (v.skips = true → w.used = v.used ∧ w.place = v.place ∧ w.skips = true) := by
  obtain ⟨target, ht, rfl⟩ := Option.map_eq_some_iff.mp h
  exact ⟨target, ht, rfl, rfl, rfl, by simp +contextual, by simp +contextual⟩

theorem step?_eq_some (h : v.step? s token = some w) :
    s.schema.targetAt? v.node = none ∧ (s.schema.get? (v.node.child token)).isSome ∧
      w = { v with
        path  := v.path.child token
        place := v.place.child token
        node  := v.node.child token
        skips := false } := by
  unfold step? at h
  split at h
  case isTrue hc => exact ⟨hc.left, hc.right, (Option.some.inj h).symm⟩
  case isFalse   => simp at h

theorem run?_append (s : Source) (v : Visit) (ms ns : List Move) :
    v.run? s (ms ++ ns) = (v.run? s ms).bind (·.run? s ns) := by
  induction ms generalizing v with
  | nil => rfl
  | cons m ms ih =>
    simp only [List.cons_append, run?, Option.bind_assoc]
    exact congrArg _ (funext ih)

theorem run?_concat (s : Source) (v : Visit) (ms : List Move) (m : Move) :
    v.run? s (ms ++ [m]) = (v.run? s ms).bind (·.move? s m) := by
  rw [run?_append]
  cases v.run? s ms with
  | none   => rfl
  | some v =>
    simp only [Option.bind_some, run?]
    cases v.move? s m <;> rfl

theorem exists_run?_of_append (h : u.run? s (ms ++ ns) = some w) :
    ∃ v, u.run? s ms = some v ∧ v.run? s ns = some w := by
  rw [run?_append] at h
  exact Option.bind_eq_some_iff.mp h

theorem exists_move?_of_concat (h : u.run? s (ms ++ [m]) = some w) :
    ∃ v, u.run? s ms = some v ∧ v.move? s m = some w := by
  rw [run?_concat] at h
  exact Option.bind_eq_some_iff.mp h

theorem path_of_run? (h : u.run? s ms = some w) : w.path = u.path.append (steps ms) := by
  induction ms generalizing u with
  | nil =>
    cases h
    simp [steps, Pointer.append]
  | cons m ms ih =>
    obtain ⟨v, hv, hr⟩ := Option.bind_eq_some_iff.mp h
    cases m with
    | none =>
      obtain ⟨_, _, hp, _⟩ := jump?_eq_some hv
      rw [ih hr, hp]
      rfl
    | some token =>
      obtain ⟨_, _, rfl⟩ := step?_eq_some hv
      rw [ih hr]
      simp [steps, Pointer.append, Pointer.child]

theorem isNone_of_move? (h : v.move? s m = some w) :
    m = none ↔ s.schema.targetAt? v.node ≠ none := by
  cases m with
  | none =>
    obtain ⟨_, ht, _⟩ := jump?_eq_some h
    simp [ht]
  | some token => simp [(step?_eq_some h).left]

theorem exists_run?_of_steps {front back : List String} (h : u.run? s ms = some w)
    (hs : steps ms = front ++ back) (hb : back ≠ []) :
    ∃ ms₁ token rest v, ms = ms₁ ++ some token :: rest ∧ steps ms₁ = front ∧
      back = token :: steps rest ∧ u.run? s ms₁ = some v := by
  induction ms generalizing u front with
  | nil => simp [steps, hb] at hs
  | cons m ms ih =>
    obtain ⟨a, ha, hr⟩ := Option.bind_eq_some_iff.mp h
    cases m with
    | none =>
      obtain ⟨ms₁, token, rest, v, rfl, h₁, h₂, hv⟩ := ih hr hs
      exact ⟨none :: ms₁, token, rest, v, rfl, h₁, h₂, by rw [run?, ha, Option.bind_some, hv]⟩
    | some t =>
      cases front with
      | nil => exact ⟨[], t, ms, u, rfl, rfl, hs.symm, rfl⟩
      | cons f front =>
        obtain ⟨rfl, hrest⟩ : t = f ∧ steps ms = front ++ back := by simpa [steps] using hs
        obtain ⟨ms₁, token, rest, v, rfl, rfl, h₂, hv⟩ := ih hr hrest
        exact ⟨some t :: ms₁, token, rest, v, rfl, rfl, h₂, by rw [run?, ha, Option.bind_some, hv]⟩

-- Of two runs to comparable paths, one goes on from where the other ends.
theorem run?_comparable (hv : u.run? s ms = some v) (hw : u.run? s ns = some w)
    (h : steps ms <+: steps ns) : ms <+: ns ∨ ns <+: ms := by
  induction ms generalizing u ns with
  | nil => exact .inl (List.nil_prefix)
  | cons m ms ih =>
    cases ns with
    | nil => exact .inr (List.nil_prefix)
    | cons n ns =>
      obtain ⟨a, ha, hv⟩ := Option.bind_eq_some_iff.mp hv
      obtain ⟨b, hb, hw⟩ := Option.bind_eq_some_iff.mp hw
      have hmn : m = none ↔ n = none := (isNone_of_move? ha).trans (isNone_of_move? hb).symm
      have he : m = n ∧ steps ms <+: steps ns := by
        cases m with
        | none =>
          obtain rfl := hmn.mp rfl
          exact ⟨rfl, h⟩
        | some token =>
          cases n with
          | none => exact absurd (hmn.mpr rfl) (by simp)
          | some other =>
            obtain ⟨rfl, hr⟩ := List.cons_prefix_cons.mp h
            exact ⟨rfl, hr⟩
      obtain ⟨rfl, he⟩ := he
      obtain rfl := Option.some.inj (ha.symm.trans hb)
      simpa [List.cons_prefix_cons] using ih hv hw he

theorem exists_run?_of_unreferenced (h : u.run? s ms = some w)
    (hn : ∀ front back, steps ms = front ++ back → back ≠ [] →
      s.schema.targetAt? (u.node.append front) = none) :
    ∃ x, u.run? s ((steps ms).map some) = some x := by
  induction ms generalizing u with
  | nil => exact ⟨u, rfl⟩
  | cons m ms ih =>
    obtain ⟨a, ha, hr⟩ := Option.bind_eq_some_iff.mp h
    cases m with
    | none =>
      have hs : steps ms = [] := by
        refine Decidable.byContradiction fun hne => ?_
        have ht := hn [] (steps ms) rfl hne
        rw [Pointer.append_nil] at ht
        exact (isNone_of_move? ha).mp rfl ht
      exact ⟨u, congrArg (fun tokens => u.run? s (tokens.map some)) hs⟩
    | some token =>
      have hnode : a.node = u.node.child token := by rw [(step?_eq_some ha).right.right]
      obtain ⟨x, hx⟩ := ih hr fun front back he hb => by
        rw [hnode, Pointer.child_append]
        exact hn (token :: front) back (congrArg _ he) hb
      have hx : u.run? s (some token :: (steps ms).map some) = some x := by
        rw [run?, ha, Option.bind_some, hx]
      exact ⟨x, hx⟩

theorem rank_of_run? {n : Nat} (hn : steps ms = []) (h : u.run? s ms = some w)
    (hr : s.schema.Rank n u.node) : ∃ m, m + ms.length = n ∧ s.schema.Rank m w.node := by
  induction ms generalizing u n with
  | nil =>
    cases h
    exact ⟨n, rfl, hr⟩
  | cons m ms ih =>
    obtain ⟨a, ha, hrest⟩ := Option.bind_eq_some_iff.mp h
    cases m with
    | some token => simp [steps] at hn
    | none =>
      obtain ⟨target, ht, _, hnode, _⟩ := jump?_eq_some ha
      obtain ⟨k, rfl, hk⟩ := hr.of_jump ht
      obtain ⟨i, rfl, hi⟩ := ih hn hrest (hnode ▸ hk)
      exact ⟨i, rfl, hi⟩

@[elab_as_elim]
theorem run?_induct {motive : List Move → Visit → Prop} (nil : motive [] u)
    (concat : ∀ ms m v w, u.run? s ms = some v → motive ms v → v.move? s m = some w →
      motive (ms ++ [m]) w)
    (h : u.run? s ms = some w) : motive ms w := by
  have hr : ∀ ms ns v, u.run? s ns = some v → motive ns v → v.run? s ms = some w →
      motive (ns ++ ms) w := by
    intro ms
    induction ms with
    | nil =>
      rintro ns v _ hv ⟨⟩
      simpa using hv
    | cons m ms ih =>
      intro ns v hn hv h
      obtain ⟨a, ha, h⟩ := Option.bind_eq_some_iff.mp h
      have hna : u.run? s (ns ++ [m]) = some a := by rw [run?_concat, hn, Option.bind_some, ha]
      simpa using ih (ns ++ [m]) a hna (concat ns m v a hn hv ha) h
  exact hr ms [] u rfl nil h

def Toured (s : Source) (v : Visit) : Prop := ∃ ms, start.run? s ms = some v

theorem toured_start : Toured s start := ⟨[], rfl⟩

theorem Toured.run (h : Toured s v) (hm : v.run? s ms = some w) : Toured s w := by
  obtain ⟨ns, h⟩ := h
  exact ⟨ns ++ ms, by rw [run?_append, h, Option.bind_some, hm]⟩

theorem Toured.exists_run? {tokens : List String} (hv : start.run? s ms = some v)
    (hw : Toured s w) (hp : w.path = v.path.append tokens) :
    ∃ ns x, v.run? s ns = some x ∧ steps ns = tokens := by
  obtain ⟨ns, hn⟩ := hw
  have hsteps : steps ns = steps ms ++ tokens := by
    have h := congrArg Pointer.tokens hp
    simpa [path_of_run? hv, path_of_run? hn, Pointer.append, start, Pointer.root] using h
  cases run?_comparable hv hn (hsteps ▸ List.prefix_append ..)
  case inl hpre =>
    obtain ⟨rest, rfl⟩ := hpre
    obtain ⟨a, ha, hr⟩ := exists_run?_of_append hn
    obtain rfl := Option.some.inj (hv.symm.trans ha)
    exact ⟨rest, w, hr, List.append_cancel_left (steps_append ms rest ▸ hsteps)⟩
  case inr hpre =>
    obtain ⟨rest, rfl⟩ := hpre
    rw [steps_append, List.append_assoc, List.self_eq_append_right] at hsteps
    exact ⟨[], v, rfl, (List.append_eq_nil_iff.mp hsteps).right.symm⟩

@[elab_as_elim]
theorem Toured.induct {motive : Visit → Prop} (start : motive start)
    (move : ∀ v m w, Toured s v → motive v → v.move? s m = some w → motive w)
    (h : Toured s v) : motive v := by
  obtain ⟨ms, h⟩ := h
  refine run?_induct ?nil ?concat h
  case nil    => exact start
  case concat => exact fun ms m v w hv hm hw => move v m w ⟨ms, hv⟩ hm hw

theorem used_subset_of_run? (h : v.run? s ms = some w) : v.used ⊆ w.used := by
  refine run?_induct ?nil ?concat h
  case nil => exact List.Subset.refl _
  case concat =>
    intro ms m a b _ ih hb
    cases m with
    | some token =>
      obtain ⟨_, _, rfl⟩ := step?_eq_some hb
      exact ih
    | none =>
      obtain ⟨_, _, _, _, _, hf, ht⟩ := jump?_eq_some hb
      cases hs : a.skips with
      | false => exact (hf hs).left ▸ fun p hp => List.mem_append_left _ (ih hp)
      | true  => exact (ht hs).left ▸ ih

theorem edges_of_run? (h : v.run? s ms = some w) :
    ∃ es, w.edges = v.edges ++ es ∧ (none ∉ ms → es = []) := by
  refine run?_induct ?nil ?concat h
  case nil => exact ⟨[], by simp, fun _ => rfl⟩
  case concat =>
    rintro ms m a b _ ⟨es, he, hn⟩ hb
    cases m with
    | some token =>
      obtain ⟨_, _, rfl⟩ := step?_eq_some hb
      exact ⟨es, he, by simpa using hn⟩
    | none =>
      obtain ⟨target, _, _, _, hb, _⟩ := jump?_eq_some hb
      exact ⟨es ++ [⟨a.node, target⟩], by simp [hb, he], by simp⟩

theorem eq_of_run?_of_steps (hn : none ∉ ms) (h : v.run? s ms = some w) :
    w.path = v.path.append (steps ms) ∧ w.place = v.place.append (steps ms) ∧
      w.node = v.node.append (steps ms) ∧ w.used = v.used ∧ w.edges = v.edges ∧
      (w.skips = true → w = v) := by
  revert hn
  refine run?_induct ?nil ?concat h
  case nil => simp [steps, Pointer.append]
  case concat =>
    intro ms m a b _ ih hb hn
    obtain ⟨hms, hm⟩ : none ∉ ms ∧ m ≠ none := by simpa [eq_comm] using hn
    obtain ⟨token, rfl⟩ := Option.ne_none_iff_exists'.mp hm
    obtain ⟨_, _, rfl⟩ := step?_eq_some hb
    obtain ⟨hp, hq, hr, hu, he, _⟩ := ih hms
    simp [hp, hq, hr, hu, he, Pointer.append, Pointer.child, steps]

theorem exists_run?_steps {tokens : List String}
    (ht : ∀ front back, tokens = front ++ back → back ≠ [] →
      s.schema.targetAt? (v.node.append front) = none)
    (hg : (s.schema.get? (v.node.append tokens)).isSome) :
    ∃ w, v.run? s (tokens.map some) = some w := by
  induction tokens generalizing v with
  | nil => exact ⟨v, rfl⟩
  | cons token rest ih =>
    have hn : s.schema.targetAt? v.node = none := by
      simpa [Pointer.append] using ht [] (token :: rest) rfl (by simp)
    have happ (more : List String) :
        v.node.append (token :: more) = (v.node.child token).append more := by
      simp [Pointer.append, Pointer.child]
    have hc : (s.schema.get? (v.node.child token)).isSome := by
      rw [happ, Json.get?_append] at hg
      cases hj : s.schema.get? (v.node.child token) <;> simp [hj] at hg ⊢
    have hs : v.move? s (some token) = some { v with
        path  := v.path.child token
        place := v.place.child token
        node  := v.node.child token
        skips := false } := if_pos ⟨hn, hc⟩
    obtain ⟨w, hw⟩ := ih (v := { v with
        path  := v.path.child token
        place := v.place.child token
        node  := v.node.child token
        skips := false })
      (fun front back he hb => happ front ▸ ht (token :: front) back (by simp [he]) hb)
      (happ rest ▸ hg)
    exact ⟨w, by rw [List.map_cons, run?, hs, Option.bind_some, hw]⟩

theorem exists_run?_of_settles {q : Pointer} (h : s.schema.Settles v.node q) :
    ∃ n w, v.run? s (List.replicate n none) = some w ∧ w.node = q := by
  generalize hp : v.node = p at h
  induction h generalizing v with
  | here => exact ⟨0, v, rfl, hp⟩
  | jump ht _ ih =>
    subst hp
    obtain ⟨a, ha⟩ : ∃ a, v.jump? s = some a := by simp [jump?, ht]
    obtain ⟨target, ht', _, hn, _⟩ := jump?_eq_some ha
    obtain ⟨n, w, hw, hq⟩ := ih (v := a) (hn.trans (Option.some.inj (ht'.symm.trans ht)))
    exact ⟨n + 1, w, by rw [List.replicate_succ, run?, move?, ha, Option.bind_some, hw], hq⟩

-- From the same node the same moves can be made. If a reference is followed then the places are the same
-- from then on.
theorem run?_transport {v' : Visit} (hn : v.node = v'.node) (hv : v.skips = false)
    (hv' : v'.skips = false) (h : v.run? s ms = some w) :
    ∃ w', v'.run? s ms = some w' ∧ w.node = w'.node ∧ w.skips = w'.skips ∧
      (v.used ⊆ v'.used → w.used ⊆ w'.used) ∧ (none ∈ ms → w.place = w'.place) ∧
      ∃ es, w.edges = v.edges ++ es ∧ w'.edges = v'.edges ++ es := by
  suffices hs : ∃ w', v'.run? s ms = some w' ∧ w.node = w'.node ∧ w.skips = w'.skips ∧
      (v.used ⊆ v'.used → w.used ⊆ w'.used) ∧ (none ∈ ms → w.place = w'.place) ∧
      (w.skips = true → none ∈ ms) ∧ ∃ es, w.edges = v.edges ++ es ∧ w'.edges = v'.edges ++ es by
    obtain ⟨w', hw', h₁, h₂, h₃, h₄, _, h₅⟩ := hs
    exact ⟨w', hw', h₁, h₂, h₃, h₄, h₅⟩
  refine run?_induct ?nil ?concat h
  case nil => exact ⟨v', rfl, hn, by rw [hv, hv'], id, by simp, by simp [hv], [], by simp⟩
  case concat =>
    rintro ms m a b _ ⟨a', ha', hn, hs, hu, hp, hk, es, he, he'⟩ hb
    cases m with
    | some token =>
      obtain ⟨ht, hg, rfl⟩ := step?_eq_some hb
      have hb' : a'.step? s token = some { a' with
          path  := a'.path.child token
          place := a'.place.child token
          node  := a'.node.child token
          skips := false } := if_pos ⟨hn ▸ ht, hn ▸ hg⟩
      refine ⟨_, by rw [run?_concat, ha', Option.bind_some]; exact hb', ?_⟩
      refine ⟨by simp [hn], rfl, hu, fun hm => ?_, by simp, es, he, he'⟩
      simp [hp (by simpa using hm)]
    | none =>
      obtain ⟨target, ht, _, hnode, hedge, hf, ht'⟩ := jump?_eq_some hb
      obtain ⟨b', hb'⟩ : ∃ b', a'.jump? s = some b' := by simp [jump?, ← hn, ht]
      obtain ⟨other, ho, _, hnode', hedge', hf', htt'⟩ := jump?_eq_some hb'
      obtain rfl : target = other := Option.some.inj (ht.symm.trans (hn ▸ ho))
      refine ⟨b', by rw [run?_concat, ha', Option.bind_some]; exact hb', ?_⟩
      refine ⟨by rw [hnode, hnode'], ?skips, ?used, ?place, by simp, es ++ [⟨a.node, target⟩], ?edges,
        ?edges'⟩
      case edges  => simp [hedge, he]
      case edges' => simp [hedge', he', hn]
      all_goals cases hsk : a.skips
      case skips.false =>
        have h₁ := (hf hsk).right.right
        have h₂ := (hf' (hs ▸ hsk)).right.right
        exact Bool.eq_iff_iff.mpr (h₁.trans h₂.symm)
      case skips.true => rw [(ht' hsk).right.right, (htt' (hs ▸ hsk)).right.right]
      case used.false =>
        intro hsub
        rw [(hf hsk).left, (hf' (hs ▸ hsk)).left]
        exact List.append_subset.mpr ⟨fun p hp => List.mem_append_left _ (hu hsub hp),
          fun p hp => List.mem_append_right _ hp⟩
      case used.true =>
        intro hsub
        rw [(ht' hsk).left, (htt' (hs ▸ hsk)).left]
        exact hu hsub
      case place.false => rw [(hf hsk).right.left, (hf' (hs ▸ hsk)).right.left]; simp
      case place.true =>
        rw [(ht' hsk).right.left, (htt' (hs ▸ hsk)).right.left]
        exact fun _ => hp (hk hsk)

end Visit

end JsonSchema

import JsonSchema.Proofs.Reference.Tour

namespace JsonSchema

open Expansion (Source)

def Json.IsTarget (j : Json) (p : Pointer) : Prop :=
  ∃ found, j.get? p = some found ∧ (found.isObject ∨ ∃ b, found = .bool b)

theorem Json.PureReferences.isTarget {j : Json} {p q : Pointer} (h : j.PureReferences)
    (ht : j.targetAt? p = some q) : j.IsTarget q :=
  (h.of_targetAt? ht).right

theorem Json.PureReferences.isTarget_source {j : Json} {p q : Pointer} (h : j.PureReferences)
    (ht : j.targetAt? p = some q) : j.IsTarget p := by
  obtain ⟨⟨text, hg, _⟩, _⟩ := h.of_targetAt? ht
  exact ⟨_, hg, .inl rfl⟩

theorem Json.IsTarget.targetAt?_eq_none {j : Json} {p : Pointer} {tokens : List String}
    (h : j.PureReferences) (ht : j.IsTarget (p.append tokens)) (hn : tokens ≠ []) :
    j.targetAt? p = none := by
  obtain ⟨found, hg, hf⟩ := ht
  exact h.targetAt?_eq_none_of_inside hg hf hn

theorem Json.IsTarget.isSome_get? {j : Json} {p : Pointer} (h : j.IsTarget p) : (j.get? p).isSome := by
  obtain ⟨found, hg, _⟩ := h
  simp [hg]

namespace Visit

variable {s : Source} {u v w : Visit} {m : Move} {ms ns : List Move} {token : String}

-- A tour that has come to a node without following references.
def direct (p : Pointer) : Visit := ⟨p, [.root], p, p, [], false⟩

-- A tour has come to the end of the references made at its path.
def Settled (s : Source) (v : Visit) : Prop := s.schema.targetAt? v.node = none

theorem Toured.root_mem_used (h : Toured s v) : Pointer.root ∈ v.used := by
  obtain ⟨ms, h⟩ := h
  exact used_subset_of_run? h (List.mem_singleton.mpr rfl)

theorem exists_run?_of_walks {tokens : List String} {q : Pointer}
    (h : s.schema.Walks v.node tokens q) :
    ∃ ms w, v.run? s ms = some w ∧ steps ms = tokens ∧ w.node = q := by
  induction tokens generalizing v with
  | nil =>
    obtain ⟨n, w, hw, hq⟩ := exists_run?_of_settles h
    exact ⟨List.replicate n none, w, hw, steps_replicate_none n, hq⟩
  | cons token rest ih =>
    obtain ⟨r, hr, h⟩ := h
    obtain ⟨n, a, ha, rfl⟩ := exists_run?_of_settles hr
    obtain ⟨q, hq⟩ := Json.exists_settles_of_walks h
    obtain ⟨b, hb⟩ : ∃ b, a.step? s token = some b :=
      ⟨_, if_pos ⟨hr.targetAt?_eq_none, hq.isSome_get?⟩⟩
    have hnode : b.node = a.node.child token := by rw [(step?_eq_some hb).right.right]
    obtain ⟨ms, w, hw, hsteps, hwn⟩ := ih (v := b) (hnode ▸ h)
    refine ⟨List.replicate n none ++ some token :: ms, w, ?_, ?_, hwn⟩
    case refine_1 =>
      rw [run?_append, ha, Option.bind_some, run?, move?, hb]
      exact hw
    case refine_2 =>
      rw [steps_append, steps_replicate_none, List.nil_append, ← hsteps]
      rfl

theorem Settled.unique (hv : v.Settled s) (hw : w.Settled s) (h : u.run? s ms = some v)
    (h' : u.run? s ns = some w) (hp : steps ms = steps ns) : v = w := by
  have hrest {ms ns : List Move} {v w : Visit} (hv : v.Settled s) (h : u.run? s ms = some v)
      (h' : u.run? s ns = some w) (hp : steps ms = steps ns) (hpre : ms <+: ns) : v = w := by
    obtain ⟨rest, rfl⟩ := hpre
    obtain ⟨a, ha, hr⟩ := exists_run?_of_append h'
    obtain rfl : v = a := Option.some.inj (h.symm.trans ha)
    cases rest with
    | nil => exact Option.some.inj hr
    | cons m rest =>
      obtain ⟨b, hb, _⟩ := Option.bind_eq_some_iff.mp hr
      cases m with
      | none =>
        obtain ⟨_, ht, _⟩ := jump?_eq_some hb
        exact absurd (hv.symm.trans ht) (by simp)
      | some token =>
        rw [steps_append] at hp
        simp [steps] at hp
  cases run?_comparable h h' (hp ▸ List.prefix_refl _)
  case inl hpre => exact hrest hv h h' hp hpre
  case inr hpre => exact (hrest hw h' h hp.symm hpre).symm

theorem Toured.unique (hv : Toured s v) (hw : Toured s w) (hp : v.path = w.path) (hvs : v.Settled s)
    (hws : w.Settled s) : v = w := by
  obtain ⟨ms, h⟩ := hv
  obtain ⟨ns, h'⟩ := hw
  refine hvs.unique hws h h' ?_
  have hm := path_of_run? h
  have hn := path_of_run? h'
  have hp := congrArg Pointer.tokens hp
  simpa [hm, hn, Pointer.append, start, Pointer.root] using hp

section Pure

variable (hs : s.schema.PureReferences)

include hs

theorem Toured.isSome_get? (h : Toured s v) : (s.schema.get? v.node).isSome := by
  refine Toured.induct ?start ?move h
  case start => rfl
  case move =>
    intro v m w _ _ hm
    cases m with
    | some token =>
      obtain ⟨_, hg, rfl⟩ := step?_eq_some hm
      exact hg
    | none =>
      obtain ⟨target, ht, _, hn, _⟩ := jump?_eq_some hm
      exact hn ▸ (hs.isTarget ht).isSome_get?

theorem Toured.exists_settles (h : Toured s v) : ∃ q, s.schema.Settles v.node q := by
  obtain ⟨found, hg⟩ := Option.isSome_iff_exists.mp (h.isSome_get? hs)
  exact hs.settles v.node found hg

theorem Toured.settles_of_settled (h : Toured s v) (hv : v.Settled s) :
    s.schema.Settles v.node v.node := by
  obtain ⟨q, hq⟩ := h.exists_settles hs
  exact hq.eq_of_targetAt?_eq_none hv ▸ hq

theorem Toured.walks (h : Toured s v) :
    ∀ q, s.schema.Settles v.node q → s.schema.Walks Pointer.root v.path.tokens q := by
  refine Toured.induct ?start ?move h
  case start => exact fun q hq => hq
  case move =>
    intro v m w hv ih hm q hq
    cases m with
    | some token =>
      obtain ⟨ht, _, rfl⟩ := step?_eq_some hm
      have hself := hv.settles_of_settled hs ht
      exact Json.walks_append.mpr ⟨v.node, ih v.node hself, v.node, hself, hq⟩
    | none =>
      obtain ⟨target, ht, hp, hn, _⟩ := jump?_eq_some hm
      rw [hp]
      exact ih q (.jump ht (hn ▸ hq))

theorem run?_to_target {p : Pointer} (h : s.schema.IsTarget p) :
    start.run? s (p.tokens.map some) = some (direct p) := by
  have hroot : Pointer.root.append p.tokens = p := by simp [Pointer.append, Pointer.root]
  obtain ⟨w, hw⟩ : ∃ w, start.run? s (p.tokens.map some) = some w := by
    refine exists_run?_steps (fun front back he hb => ?_) ?_
    case refine_1 =>
      refine Json.IsTarget.targetAt?_eq_none hs ?_ hb
      have hp : (Pointer.root.append front).append back = p := by
        rw [← hroot, he]
        simp [Pointer.append]
      exact hp ▸ h
    case refine_2 => exact hroot.symm ▸ h.isSome_get?
  have hr := eq_of_run?_of_steps (by simp) hw
  simp only [steps_map_some, start, hroot] at hr
  obtain ⟨hpath, hplace, hnode, hused, hedges, hskips⟩ := hr
  have hskips : w.skips = false := by
    cases hk : w.skips with
    | false => rfl
    | true  => exact absurd (hskips hk ▸ hk) (by simp)
  rw [hw, direct]
  cases w
  simp_all

end Pure

end Visit

end JsonSchema

import JsonSchema.Expansion
import JsonSchema.Proofs.Reference.Closure
import JsonSchema.Proofs.Reference.Shortening

namespace JsonSchema

open Expansion (Source)

namespace ReferenceGraph

variable {schema : Json} {edges : List Edge} {library : Library} {p q : Pointer} {j found : Json}

theorem mem_targets (h : (p, j) ∈ (targets schema edges library).1.entries) :
    (p, j) ∈ library.entries ∨ schema.get? p = some j := by
  induction edges generalizing library with
  | nil => exact .inl h
  | cons e rest ih =>
    simp only [targets] at h
    split at h
    case isTrue => exact ih h
    case isFalse =>
      split at h
      case h_2 => exact ih h
      case h_1 found hf =>
        cases ih h
        case inr h => exact .inr h
        case inl h =>
          cases PointerTable.mem_insert h
          case inl h => cases h; exact .inr hf
          case inr h => exact .inl h

theorem mem_keys_targets
    (h : p ∈ library.keys ∨ (schema.get? p).isSome ∧ ∃ e ∈ edges, e.target = p) :
    p ∈ (targets schema edges library).1.keys := by
  induction edges generalizing library with
  | nil => exact h.resolve_right (by simp)
  | cons e rest ih =>
    simp only [List.mem_cons, exists_eq_or_imp] at h
    simp only [targets]
    split
    case isTrue hc =>
      refine ih ?_
      rcases h with h | ⟨_, rfl | h⟩
      · exact .inl h
      · exact .inl (PointerTable.isSome_get?.mp hc)
      · exact .inr ⟨‹_›, h⟩
    case isFalse =>
      split
      case h_1 found _ =>
        refine ih ?_
        rcases h with h | ⟨_, rfl | h⟩
        · exact .inl (PointerTable.mem_keys_insert.mpr (.inr h))
        · exact .inl (PointerTable.mem_keys_insert.mpr (.inl rfl))
        · exact .inr ⟨‹_›, h⟩
      case h_2 hn =>
        refine ih ?_
        rcases h with h | ⟨hg, rfl | h⟩
        · exact .inl h
        · simp [hn] at hg
        · exact .inr ⟨hg, h⟩

theorem get?_library {graph : ReferenceGraph} (h : (graph.library schema).1.get? p = some j) :
    schema.get? p = some j :=
  (mem_targets (PointerTable.mem_of_get? h)).resolve_left List.not_mem_nil

theorem get?_library_of_targetAt? (ht : schema.targetAt? p = some q)
    (hg : schema.get? q = some found) :
    ((ofSchema schema).library schema).1.get? q = some found := by
  have hk : q ∈ ((ofSchema schema).library schema).1.keys :=
    mem_keys_targets (.inr ⟨by simp [hg], _, Json.mem_references_of_targetAt? ht, rfl⟩)
  obtain ⟨other, ho⟩ := Option.isSome_iff_exists.mp (PointerTable.isSome_get?.mpr hk)
  rw [ho, ← hg, get?_library ho]

end ReferenceGraph

namespace ReferenceMap

variable {edges : List Edge} {source target p q : Pointer} {e : Edge} {outer inner : List String}

theorem mem_seeds (h : (source, target) ∈ (seeds edges).entries) :
    ⟨source, target⟩ ∈ edges ∧ source.isWithin target = true := by
  obtain ⟨e, he, heq⟩ := List.mem_map.mp (PointerTable.mem_ofList h)
  cases heq
  exact List.mem_filter.mp he

theorem mem_keys_seeds : source ∈ (seeds edges).keys ↔
    ∃ target, ⟨source, target⟩ ∈ edges ∧ source.isWithin target = true := by
  rw [seeds, PointerTable.mem_keys_ofList]
  simp only [List.map_map, List.mem_map, List.mem_filter, Edge.isRecursive, Function.comp_apply]
  constructor
  case mp =>
    rintro ⟨e, he, rfl⟩
    exact ⟨e.target, he⟩
  case mpr => exact fun ⟨target, h⟩ => ⟨_, h, rfl⟩

theorem seenThrough?_eq_some :
    seenThrough? e (p, q) = some (source, target) ↔
      ∃ outer inner, outer ≠ [] ∧ p = e.target.append outer ∧ q = e.target.append inner ∧
        source = e.source.append outer ∧ target = e.source.append inner := by
  simp only [seenThrough?]
  constructor
  case mp =>
    intro h
    split at h
    case isFalse => simp at h
    case isTrue hc =>
      have ⟨hp, hq⟩ := (Bool.and_eq_true _ _).mp hc
      obtain ⟨outer, hn, rfl⟩ := Pointer.isInside_iff_exists.mp hp
      obtain ⟨inner, rfl⟩ := Pointer.isWithin_iff_exists.mp hq
      rw [Pointer.rebase?_eq_some.mpr ⟨outer, rfl, rfl⟩,
        Pointer.rebase?_eq_some.mpr ⟨inner, rfl, rfl⟩] at h
      cases h
      exact ⟨outer, inner, hn, rfl, rfl, rfl, rfl⟩
  case mpr =>
    rintro ⟨outer, inner, hn, rfl, rfl, rfl, rfl⟩
    rw [if_pos, Pointer.rebase?_eq_some.mpr ⟨outer, rfl, rfl⟩,
      Pointer.rebase?_eq_some.mpr ⟨inner, rfl, rfl⟩]
    rw [Bool.and_eq_true]
    exact ⟨Pointer.isInside_iff_exists.mpr ⟨outer, hn, rfl⟩,
      Pointer.isWithin_iff_exists.mpr ⟨inner, rfl⟩⟩

theorem exists_of_mem_ofEdges (h : (source, target) ∈ (ofEdges edges).entries) :
    ∃ place node outer inner, source = place.append outer ∧ target = place.append inner ∧
      (place = .root ∧ node = .root ∨ outer ≠ [] ∧ ⟨place, node⟩ ∈ edges) ∧
      ⟨node.append outer, node.append inner⟩ ∈ edges ∧
      (node.append outer).isWithin (node.append inner) = true := by
  cases PointerTable.mem_foldl_insert h
  case inr h =>
    refine ⟨.root, .root, source.tokens, target.tokens, ?_, ?_, .inl ⟨rfl, rfl⟩, ?_⟩
    all_goals simp only [Pointer.root_append_tokens]
    exact mem_seeds h
  case inl h =>
    obtain ⟨e, he, h⟩ := List.mem_flatMap.mp h
    obtain ⟨⟨p, q⟩, hm, h⟩ := List.mem_filterMap.mp h
    obtain ⟨outer, inner, hn, rfl, rfl, rfl, rfl⟩ := seenThrough?_eq_some.mp h
    exact ⟨e.source, e.target, outer, inner, rfl, rfl, .inr ⟨hn, (List.mem_filter.mp he).left⟩,
      mem_seeds hm⟩

theorem mem_keys_ofEdges_of_seeds (h : source ∈ (seeds edges).keys) :
    source ∈ (ofEdges edges).keys :=
  PointerTable.mem_keys_foldl_insert.mpr (.inr h)

theorem mem_keys_ofEdges_of_copies (h : (source, target) ∈ copies edges (seeds edges).entries) :
    source ∈ (ofEdges edges).keys :=
  PointerTable.mem_keys_foldl_insert.mpr (.inl (List.mem_map.mpr ⟨_, h, rfl⟩))

end ReferenceMap

namespace Expansion.Source

-- What the references of a schema are looked up in belongs to the schema, and its references are pure.
structure Gathered (s : Source) : Prop where
  pure       : s.schema.PureReferences
  wellFormed : s.schema.WellFormed
  recursive  : s.recursive = ReferenceMap.ofEdges s.schema.closure
  library    : s.library = ((ReferenceGraph.ofSchema s.schema).library s.schema).1

-- A tour that follows no reference twice comes to a place and then stands at a node, to which the last
-- reference leads.
def Sees (s : Source) (place node : Pointer) : Prop :=
  place = .root ∧ node = .root ∨ ∃ es, Edge.Trail s ⟨place, node⟩ es

section

variable {s : Source} {place node p r : Pointer} {e : Edge} {es : List Edge} {tokens : List String}
  (hs : s.schema.PureReferences)

theorem Sees.exists_toured (h : Sees s place node) :
    ∃ u, Visit.Toured s u ∧ u.path = place ∧ u.node = node ∧ u.edges.Nodup := by
  cases h
  case inl h => exact ⟨Visit.start, Visit.toured_start, h.left.symm, h.right.symm, List.nodup_nil⟩
  case inr h =>
    obtain ⟨_, ms, u, hu, hp, hn, rfl, hd⟩ := h
    exact ⟨u, ⟨_, hu⟩, hp, hn, hd⟩

include hs

theorem walks_isTarget_iff (h : s.schema.IsTarget p) :
    s.schema.Walks .root p.tokens r ↔ s.schema.Settles p r := by
  have hw := Visit.Toured.walks hs ⟨_, Visit.run?_to_target hs h⟩
  constructor
  case mpr => exact hw r
  case mp =>
    intro hr
    obtain ⟨found, hg, _⟩ := h
    obtain ⟨q, hq⟩ := hs.settles p found hg
    exact hr.unique (hw q hq) ▸ hq

theorem Sees.walks_iff (h : Sees s place node) :
    s.schema.Walks .root (place.append tokens).tokens r ↔
      s.schema.Walks .root (node.append tokens).tokens r := by
  have hself : node = .root ∨ s.schema.IsTarget node := by
    cases h
    case inl h => exact .inl h.right
    case inr h =>
      obtain ⟨_, h⟩ := h
      exact .inr (h.isTarget hs)
  obtain ⟨u, hu, rfl, rfl, _⟩ := h.exists_toured
  obtain ⟨q, hq⟩ := hu.exists_settles hs
  have hplace := hu.walks hs q hq
  have hnode : s.schema.Walks .root u.node.tokens q := by
    cases hself
    case inl hroot => rw [hroot] at hq ⊢; exact hq
    case inr ht    => exact (walks_isTarget_iff hs ht).mpr hq
  simp only [Pointer.append, Json.walks_append]
  constructor
  case mp =>
    rintro ⟨m, hm, h⟩
    exact ⟨q, hnode, hm.unique hplace ▸ h⟩
  case mpr =>
    rintro ⟨m, hm, h⟩
    exact ⟨q, hplace, hm.unique hnode ▸ h⟩

-- References are not followed on the way to a target, so only those that are made there can be seen.
theorem exists_run?_of_trail (ht : e.Trail s es) (hp : s.schema.IsTarget p)
    (hw : p.isWithin e.source = true) :
    p = e.source ∧ ∃ rest v, (Visit.direct p).run? s (none :: rest) = some v ∧ steps rest = [] ∧
      v.node = e.target := by
  obtain ⟨ms, v, hv, hpath, hnode, _⟩ := ht
  have hplain := Visit.run?_to_target hs hp
  have hsteps : steps (ms ++ [none]) = e.source.tokens := by
    rw [← hpath, Visit.path_of_run? hv]
    rfl
  have hpre := Pointer.isWithin_iff.mp hw
  cases Visit.run?_comparable hv hplain (by rwa [hsteps, steps_map_some])
  case inl h =>
    have hm : (none : Move) ∈ p.tokens.map some := h.subset (by simp)
    simp at hm
  case inr h =>
    obtain ⟨rest, hrest⟩ := h
    rw [← hrest, steps_append, steps_map_some] at hsteps
    have hwithin : e.source.isWithin p = true := Pointer.isWithin_iff.mpr ⟨steps rest, hsteps⟩
    obtain rfl := Pointer.isWithin_antisymm hw hwithin
    rw [List.append_right_eq_self] at hsteps
    cases rest with
    | nil =>
      have hm : (none : Move) ∈ e.source.tokens.map some := by
        rw [← List.append_nil (e.source.tokens.map some), hrest]
        simp
      simp at hm
    | cons m rest =>
      cases m with
      | some token => simp [steps] at hsteps
      | none =>
        rw [← hrest, Visit.run?_append, hplain, Option.bind_some] at hv
        exact ⟨rfl, rest, v, hv, hsteps, hnode⟩

theorem source_eq_of_isTarget (ht : e.Trail s es) (hp : s.schema.IsTarget p)
    (hw : p.isWithin e.source = true) : p = e.source ∧ s.schema.targetAt? p ≠ none := by
  obtain ⟨he, _, _, hv, _⟩ := exists_run?_of_trail hs ht hp hw
  obtain ⟨a, ha, _⟩ := Option.bind_eq_some_iff.mp hv
  exact ⟨he, (Visit.isNone_of_move? ha).mp rfl⟩

theorem ne_of_trail (ht : e.Trail s es) : e.source ≠ e.target := by
  intro he
  have hp := ht.isTarget hs
  obtain ⟨ms, v, hv, hpath, hnode, rfl, _⟩ := ht
  have := eq_of_run? hs hv (Visit.run?_to_target hs hp) (hpath.trans he) hnode
  obtain ⟨a, _, ha⟩ := Visit.exists_move?_of_concat hv
  obtain ⟨_, _, _, _, hes, _⟩ := Visit.jump?_eq_some ha
  simp [this, Visit.direct] at hes

theorem target_eq_of_trail {q : Pointer} (hp : s.schema.targetAt? p = some q)
    (hw : p.isInside q = true) (ht : Edge.Trail s ⟨p, r⟩ es) : r = q := by
  obtain ⟨_, rest, v, hv, hrest, rfl⟩ :=
    exists_run?_of_trail hs ht (hs.isTarget_source hp) (Pointer.isWithin_refl p)
  obtain ⟨a, ha, hv⟩ := Option.bind_eq_some_iff.mp hv
  obtain ⟨target, ht, _, hn, _⟩ := Visit.jump?_eq_some ha
  obtain rfl : q = target := Option.some.inj (hp.symm.trans ht)
  obtain ⟨tokens, hne, heq⟩ := Pointer.isInside_iff_exists.mp hw
  have hq : s.schema.targetAt? q = none :=
    Json.IsTarget.targetAt?_eq_none hs (heq ▸ hs.isTarget_source hp) hne
  cases rest with
  | nil =>
    cases hv
    exact hn
  | cons m rest =>
    cases m with
    | some token => simp [steps] at hrest
    | none =>
      obtain ⟨b, hb, _⟩ := Option.bind_eq_some_iff.mp hv
      exact absurd (hn ▸ hq) ((Visit.isNone_of_move? hb).mp rfl)

end

namespace Gathered

variable {s : Source} {source target p q r : Pointer} {tokens : List String} (h : s.Gathered)

include h

theorem exists_trail (he : ⟨p, q⟩ ∈ s.schema.closure) (hp : s.Walkable p) :
    ∃ es, Edge.Trail s ⟨p, q⟩ es :=
  exists_trail_of_mem_closure h.pure h.wellFormed he hp

theorem exists_of_mem_recursive (hm : (source, target) ∈ s.recursive.entries)
    (hp : s.Walkable source) :
    ∃ place node outer inner es, source = place.append outer ∧ target = place.append inner ∧
      (place = .root ∧ node = .root ∨ outer ≠ [] ∧ ∃ es, Edge.Trail s ⟨place, node⟩ es) ∧
      Edge.Trail s ⟨node.append outer, node.append inner⟩ es ∧
      (node.append outer).isInside (node.append inner) = true := by
  rw [h.recursive] at hm
  obtain ⟨place, node, outer, inner, rfl, rfl, hplace, he, hw⟩ := ReferenceMap.exists_of_mem_ofEdges hm
  have hsees : place = .root ∧ node = .root ∨ outer ≠ [] ∧ ∃ es, Edge.Trail s ⟨place, node⟩ es :=
    hplace.imp id fun ⟨hn, he⟩ =>
      ⟨hn, h.exists_trail he (hp.of_isWithin (Pointer.isWithin_iff_exists.mpr ⟨_, rfl⟩))⟩
  have hnode : s.Walkable (node.append outer) := by
    obtain ⟨q, hq⟩ := (walkable_iff h.pure).mp hp
    have hs : Sees s place node := hsees.imp id And.right
    exact (walkable_iff h.pure).mpr ⟨q, (hs.walks_iff h.pure).mp hq⟩
  obtain ⟨es, ht⟩ := h.exists_trail he hnode
  exact ⟨place, node, outer, inner, es, rfl, rfl, hsees, ht,
    Pointer.isInside_iff.mpr ⟨hw, ne_of_trail h.pure ht⟩⟩

theorem isInside_of_mem_recursive (hm : (source, target) ∈ s.recursive.entries)
    (hp : s.Walkable source) : source.isInside target = true := by
  obtain ⟨place, node, outer, inner, _, rfl, rfl, _, _, hi⟩ := h.exists_of_mem_recursive hm hp
  obtain ⟨rest, hn, ho⟩ := Pointer.isInside_iff_exists.mp hi
  rw [Pointer.append_append, Pointer.append_right_inj] at ho
  exact Pointer.isInside_iff_exists.mpr ⟨rest, hn, by rw [ho, Pointer.append_append]⟩

theorem walks_of_mem_recursive (hm : (source, target) ∈ s.recursive.entries)
    (hp : s.Walkable source) :
    s.schema.Walks .root (source.append tokens).tokens r ↔
      s.schema.Walks .root (target.append tokens).tokens r := by
  obtain ⟨place, node, outer, inner, _, rfl, rfl, hplace, ht, _⟩ := h.exists_of_mem_recursive hm hp
  have hplace : Sees s place node := hplace.imp id And.right
  have hnode : Sees s (node.append outer) (node.append inner) := .inr ⟨_, ht⟩
  rw [Pointer.append_append, hplace.walks_iff h.pure, ← Pointer.append_append,
    hnode.walks_iff h.pure, Pointer.append_append, ← hplace.walks_iff h.pure,
    ← Pointer.append_append]

theorem exists_toured_of_mem_recursive (hm : (source, target) ∈ s.recursive.entries)
    (hp : s.Walkable source) : ∃ v, Visit.Toured s v ∧ v.path = target ∧ v.edges.Nodup := by
  obtain ⟨place, node, outer, inner, _, rfl, rfl, hplace, ht, _⟩ := h.exists_of_mem_recursive hm hp
  have hplace : Sees s place node := hplace.imp id And.right
  obtain ⟨u, hu, rfl, rfl, hd⟩ := hplace.exists_toured
  have htarget : s.schema.IsTarget (u.node.append inner) := ht.isTarget h.pure
  obtain ⟨v, hv⟩ : ∃ v, u.run? s (inner.map some) = some v := by
    refine Visit.exists_run?_steps (fun front back he hb => ?_) htarget.isSome_get?
    refine Json.IsTarget.targetAt?_eq_none h.pure ?_ hb
    rwa [Pointer.append_append, ← he]
  obtain ⟨hpath, _, _, _, hes, _⟩ := Visit.eq_of_run?_of_steps (by simp) hv
  exact ⟨v, hu.run hv, by rw [hpath, steps_map_some], hes ▸ hd⟩

-- The target of a reference is its own shortest pointer unless it makes a reference itself, and then it
-- is shortened to where that leads.
theorem shorten_of_isTarget (hp : s.schema.IsTarget p) :
    s.shorten p = p ∨ s.schema.targetAt? p ≠ none ∧ s.schema.Settles p (s.shorten p) ∧
      p.isInside (s.shorten p) = true ∧ ∃ q, s.schema.targetAt? q = some (s.shorten p) := by
  refine ReferenceMap.shorten_induct (p := p) (motive := fun q =>
    q = p ∨ s.schema.targetAt? p ≠ none ∧ s.schema.Settles p q ∧ p.isInside q = true ∧
      ∃ r, s.schema.targetAt? r = some q) (fun source target tokens hm _ hq => ?_) (.inl rfl)
  have hwithin : p.isWithin source = true := by
    have hsource : (source.append tokens).isWithin source = true :=
      Pointer.isWithin_iff_exists.mpr ⟨_, rfl⟩
    cases hq
    case inl he => exact he ▸ hsource
    case inr hq => exact Pointer.isWithin_trans (Pointer.isInside_iff.mp hq.right.right.left).left hsource
  have hwalk : s.Walkable source := (hp.walkable h.pure).of_isWithin hwithin
  obtain ⟨place, node, outer, inner, es, hsource, htarget, hplace, ht, _⟩ :=
    h.exists_of_mem_recursive hm hwalk
  cases hplace
  case inr hplace =>
    obtain ⟨hn, _, hplace⟩ := hplace
    have hin := Pointer.isWithin_iff_exists.mpr ⟨outer, hsource⟩
    obtain ⟨rfl, _⟩ := source_eq_of_isTarget h.pure hplace hp (Pointer.isWithin_trans hwithin hin)
    have := Pointer.isWithin_antisymm hwithin hin
    exact absurd this.symm (Pointer.isInside_iff.mp (Pointer.isInside_iff_exists.mpr ⟨outer, hn, hsource⟩)).right
  case inl hplace =>
    obtain ⟨rfl, rfl⟩ := hplace
    rw [← hsource, ← htarget] at ht
    obtain ⟨rfl, href⟩ := source_eq_of_isTarget h.pure ht hp hwithin
    cases hq
    case inr hq =>
      have ⟨hin, hne⟩ := Pointer.isInside_iff.mp hq.right.right.left
      exact absurd (Pointer.isWithin_antisymm hin (Pointer.isWithin_iff_exists.mpr ⟨_, rfl⟩)) hne
    case inl hq =>
      obtain rfl : tokens = [] :=
        Pointer.append_right_inj.mp (hq.trans (Pointer.append_nil _).symm)
      have hi := h.isInside_of_mem_recursive hm hwalk
      obtain ⟨rest, hn, hsource⟩ := Pointer.isInside_iff_exists.mp hi
      have hnone : s.schema.targetAt? target = none :=
        Json.IsTarget.targetAt?_eq_none h.pure (hsource ▸ hp) hn
      obtain ⟨found, hg, _⟩ := id hp
      obtain ⟨r, hr⟩ := h.pure.settles _ found hg
      have hwalks : s.schema.Walks .root (p.append []).tokens r ↔
          s.schema.Walks .root (target.append []).tokens r := h.walks_of_mem_recursive hm hwalk
      have hw := hwalks.mp (by rw [Pointer.append_nil]; exact (walks_isTarget_iff h.pure hp).mpr hr)
      rw [Pointer.append_nil] at hw ⊢
      obtain rfl := ((walks_isTarget_iff h.pure (ht.isTarget h.pure)).mp hw).eq_of_targetAt?_eq_none hnone
      obtain ⟨ms, v, hv, _, hv', _⟩ := ht
      obtain ⟨a, _, ha⟩ := Visit.exists_move?_of_concat hv
      obtain ⟨_, hta, _, hva, _⟩ := Visit.jump?_eq_some ha
      exact .inr ⟨href, hr, hi, a.node, by rw [hta, ← hva, hv']⟩

theorem find?_of_targetAt? (ht : s.schema.targetAt? p = some q) :
    s.find? q = s.schema.get? (s.shorten q) := by
  have hq := h.pure.isTarget ht
  have hlibrary {p q : Pointer} (ht : s.schema.targetAt? p = some q) :
      ∃ found, s.library.get? q = some found ∧ s.schema.get? q = some found := by
    obtain ⟨found, hg, _⟩ := h.pure.isTarget ht
    rw [h.library]
    exact ⟨found, ReferenceGraph.get?_library_of_targetAt? ht hg, hg⟩
  rw [find?]
  cases h.shorten_of_isTarget hq
  case inl he =>
    obtain ⟨found, hl, hg⟩ := hlibrary ht
    rw [he, hl, hg]
    split
    case isFalse => rfl
    case isTrue hr =>
      obtain rfl : q = .root := by
        cases q
        exact congrArg Pointer.mk (List.isEmpty_iff.mp hr)
      exact hg
  case inr hs =>
    obtain ⟨_, _, hin, _, ht⟩ := hs
    obtain ⟨found, hl, hg⟩ := hlibrary ht
    rw [hl, hg, if_neg]
    intro hr
    have := Pointer.depth_lt_of_isInside hin
    simp [Pointer.depth, List.isEmpty_iff.mp hr] at this

theorem walks_shorten (hp : s.Walkable p) :
    s.schema.Walks .root p.tokens r ↔ s.schema.Walks .root (s.shorten p).tokens r := by
  have hwalk : s.Walkable (s.shorten p) ∧ ∀ r, s.schema.Walks .root p.tokens r ↔
      s.schema.Walks .root (s.shorten p).tokens r := by
    refine ReferenceMap.shorten_induct (p := p) (motive := fun q => s.Walkable q ∧
      ∀ r, s.schema.Walks .root p.tokens r ↔ s.schema.Walks .root q.tokens r)
      (fun source target tokens hm _ hq => ?_) ⟨hp, fun _ => Iff.rfl⟩
    have hsource := hq.left.of_isWithin (Pointer.isWithin_iff_exists.mpr ⟨tokens, rfl⟩)
    have hw (r : Pointer) : s.schema.Walks .root (source.append tokens).tokens r ↔
        s.schema.Walks .root (target.append tokens).tokens r := h.walks_of_mem_recursive hm hsource
    refine ⟨?_, fun r => (hq.right r).trans (hw r)⟩
    obtain ⟨r, hr⟩ := (walkable_iff h.pure).mp hq.left
    exact (walkable_iff h.pure).mpr ⟨r, (hw r).mp hr⟩
  exact hwalk.right r

theorem not_isWithin_of_normal (hn : s.recursive.Normal p) (hp : s.Walkable p)
    (hk : source ∈ s.recursive.keys) : p.isWithin source = false := by
  refine Bool.eq_false_iff.mpr fun hw => ?_
  obtain ⟨⟨_, target⟩, hm, rfl⟩ := List.mem_map.mp hk
  have hi := h.isInside_of_mem_recursive hm (hp.of_isWithin hw)
  simpa [hw] using hn _ target hm hi

theorem mem_keys_of_isRecursive {e : Edge} (he : e ∈ s.schema.closure) (hr : e.isRecursive = true) :
    e.source ∈ s.recursive.keys := by
  rw [h.recursive]
  exact ReferenceMap.mem_keys_ofEdges_of_seeds (ReferenceMap.mem_keys_seeds.mpr ⟨e.target, he, hr⟩)

-- A reference to an enclosing node is also recursive where it is seen, if that is the case for no
-- beginning of that place.
theorem mem_keys_of_seen {place node : Pointer} {outer inner : List String}
    (he : ⟨place, node⟩ ∈ s.schema.closure)
    (hn : ∀ source ∈ s.recursive.keys, place.isWithin source = false)
    (ht : s.schema.targetAt? (node.append outer) = some (node.append inner))
    (hi : (node.append outer).isInside (node.append inner) = true) (ho : outer ≠ []) :
    place.append outer ∈ s.recursive.keys := by
  have hkeys {source : Pointer} (hk : source ∈ (ReferenceMap.seeds s.schema.closure).keys) :
      source ∈ s.recursive.keys := by
    rw [h.recursive]
    exact ReferenceMap.mem_keys_ofEdges_of_seeds hk
  have hmem : ⟨node.append outer, node.append inner⟩ ∈ s.schema.closure :=
    (follows_closure h.pure h.wellFormed).right (Json.mem_references_of_targetAt? ht)
  have hseed : node.append outer ∈ (ReferenceMap.seeds s.schema.closure).keys :=
    ReferenceMap.mem_keys_seeds.mpr ⟨_, hmem, (Pointer.isInside_iff.mp hi).left⟩
  obtain ⟨⟨_, other⟩, hentry, rfl⟩ := List.mem_map.mp hseed
  obtain ⟨es, htrail⟩ := h.exists_trail (ReferenceMap.mem_seeds hentry).left
    ((h.pure.isTarget_source ht).walkable h.pure)
  obtain rfl := target_eq_of_trail h.pure ht hi htrail
  rw [h.recursive]
  suffices hc : (place.append outer, place.append inner) ∈ ReferenceMap.copies s.schema.closure
      (ReferenceMap.seeds s.schema.closure).entries from ReferenceMap.mem_keys_ofEdges_of_copies hc
  refine List.mem_flatMap.mpr ⟨⟨place, node⟩, List.mem_filter.mpr ⟨he, ?_⟩, ?_⟩
  case refine_2 =>
    exact List.mem_filterMap.mpr ⟨_, hentry,
      ReferenceMap.seenThrough?_eq_some.mpr ⟨outer, inner, ho, rfl, rfl, rfl, rfl⟩⟩
  case refine_1 =>
    simp only [Bool.and_eq_true, Bool.not_eq_true', List.any_eq_false]
    constructor
    case left =>
      refine Bool.eq_false_iff.mpr fun hr => ?_
      simpa using hn place (h.mem_keys_of_isRecursive he hr)
    case right =>
      intro entry hm hin
      have := hn entry.1 (hkeys (List.mem_map_of_mem hm))
      simp [(Pointer.isInside_iff.mp hin).left] at this

end Gathered

end Expansion.Source

end JsonSchema

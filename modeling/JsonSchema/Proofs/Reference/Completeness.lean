import JsonSchema.Proofs.Reference.Exploration

namespace JsonSchema

open Edge (Route Continues composite passage continues_nil continues_cons passage_congr)

namespace Edge

variable {references rest rest' : List Edge} {e e' first first' : Edge}

def Apart (references : List Edge) : Prop :=
  ∀ x ∈ references, ∀ y ∈ references, x.source.isWithin y.source = true → x = y

instance : Decidable (Apart references) :=
  inferInstanceAs (Decidable (∀ x ∈ references, ∀ y ∈ references, x.source.isWithin y.source = true → x = y))

theorem Apart.eq (h : Apart references) (hm : e ∈ references) (hm' : e' ∈ references) {p : Pointer}
    (hp : p.isWithin e.source = true) (hp' : p.isWithin e'.source = true) : e = e' := by
  cases Pointer.isWithin_total hp hp'
  case inl hw => exact h e hm e' hm' hw
  case inr hw => exact (h e' hm' e hm hw).symm

-- The induction is on both ways to go on from the same target: their next references enclose a common
-- pointer and are the same.
theorem Apart.comparable (h : Apart references) (hm : rest ⊆ references) (hm' : rest' ⊆ references)
    (hc : Continues e rest) (hc' : Continues e' rest') (ht : e.target = e'.target)
    (hp : passage e rest = passage e' rest') : rest <+: rest' ∨ rest' <+: rest := by
  induction rest generalizing e e' rest' with
  | nil => exact .inl List.nil_prefix
  | cons next rest ih =>
    cases rest' with
    | nil => exact .inr List.nil_prefix
    | cons next' rest' =>
      obtain ⟨⟨_, hw⟩, hcont⟩ := continues_cons.mp hc
      obtain ⟨⟨_, hw'⟩, hcont'⟩ := continues_cons.mp hc'
      obtain ⟨tokens, hs⟩ := Pointer.isWithin_iff_exists.mp hw
      obtain ⟨tokens', hs'⟩ := Pointer.isWithin_iff_exists.mp hw'
      obtain ⟨hn, hrest⟩ := List.cons_subset.mp hm
      obtain ⟨hn', hrest'⟩ := List.cons_subset.mp hm'
      rw [passage_cons hs, passage_cons hs'] at hp
      obtain rfl : next = next' := by
        refine h.eq hn hn' (p := next.source.append (passage next rest)) (Pointer.append_isWithin ..) ?_
        rw [hs, Pointer.append_append, hp, ← Pointer.append_append, ht, ← hs']
        exact Pointer.append_isWithin ..
      obtain rfl : tokens = tokens' := Pointer.append_right_inj.mp (hs.symm.trans (ht ▸ hs'))
      have hp := calc passage (composite e [next]) rest
        _ = passage next rest                   := passage_congr (by rfl) rest
        _ = passage next rest'                  := List.append_cancel_left hp
        _ = passage (composite e' [next]) rest' := passage_congr (by rfl) rest'
      cases ih hrest hrest' hcont hcont' rfl hp
      case inl hpre => exact .inl (List.cons_prefix_cons.mpr ⟨rfl, hpre⟩)
      case inr hpre => exact .inr (List.cons_prefix_cons.mpr ⟨rfl, hpre⟩)

-- Routes that begin at the same pointer, seen as edges, agree as far as both go.
theorem Route.comparable (h : Apart references) (hr : Route references first rest)
    (hr' : Route references first' rest')
    (hs : (composite first rest).source = (composite first' rest').source) :
    first :: rest <+: first' :: rest' ∨ first' :: rest' <+: first :: rest := by
  obtain ⟨hf, hm⟩ := List.cons_subset.mp hr.among
  obtain ⟨hf', hm'⟩ := List.cons_subset.mp hr'.among
  obtain rfl : first = first' :=
    h.eq hf hf' (isWithin_composite first rest) (hs ▸ isWithin_composite first' rest')
  cases h.comparable hm hm' hr.continues hr'.continues rfl (Pointer.append_right_inj.mp hs)
  case inl hpre => exact .inl (List.cons_prefix_cons.mpr ⟨rfl, hpre⟩)
  case inr hpre => exact .inr (List.cons_prefix_cons.mpr ⟨rfl, hpre⟩)

end Edge

namespace Path

variable {references : List Edge} {known : List Path} {first next : Edge} {rest front back : List Edge}

structure Outcome (references : List Edge) (known : List Path) : Prop where
  explored  : Explored references known
  exhausted : Exhausted known

-- The edges of all routes are found.
def Complete (references : List Edge) (known : List Path) : Prop :=
  ∀ first rest, Route references first rest → Finds known (composite first rest)

-- A route goes on along a reference that has been taken by the route that is kept instead of it.
def Misses (references : List Edge) (known : List Path) : Prop :=
  ∃ first front next first' front', Route references first (front ++ [next]) ∧
    Keeps references known first' front' ∧ composite first' front' = composite first front ∧
    next ∈ first' :: front' ∧ ¬ Finds known (composite first (front ++ [next]))

variable (hd : references.Nodup)

include hd

theorem Outcome.finds_concat (h : Outcome references known) (hm : ¬ Misses references known)
    (hr : Route references first (front ++ [next])) (hf : Finds known (composite first front)) :
    Finds known (composite first (front ++ [next])) := by
  obtain ⟨unused, hk⟩ := hf
  obtain ⟨first', front', ht, _⟩ := h.explored.exists_takes hd _ hk
  obtain ⟨hn, _, hne, hc⟩ := hr.compose?
  by_cases hx : next ∈ first' :: front'
  case pos =>
    refine Classical.byContradiction fun hnew => hm ?_
    exact ⟨first, front, next, first', front', hr, ⟨_, hk, ht⟩, ht.edge.symm, hx, hnew⟩
  case neg => exact h.exhausted _ _ _ _ hk hne ((ht.unused next).mpr ⟨hn, hx⟩) hc

theorem Outcome.finds_append (h : Outcome references known) (hm : ¬ Misses references known)
    (hr : Route references first (front ++ back)) (hf : Finds known (composite first front)) :
    Finds known (composite first (front ++ back)) := by
  induction back generalizing front with
  | nil => rwa [List.append_nil]
  | cons next back ih =>
    rw [List.append_cons] at hr ⊢
    exact ih hr (h.finds_concat hd hm hr.initial hf)

theorem Outcome.complete (h : Outcome references known) (hm : ¬ Misses references known) :
    Complete references known := by
  intro first rest hr
  have hf : Finds known (composite first []) := by
    rw [Edge.composite_nil]
    exact h.explored.finds_reference (hr.among first List.mem_cons_self)
  exact h.finds_append hd hm hr hf

theorem Outcome.complete_iff (h : Outcome references known) :
    Complete references known ↔ ¬ Misses references known := by
  constructor
  case mp  => exact fun hc ⟨first, front, next, _, _, hr, _, _, _, hn⟩ => hn (hc first _ hr)
  case mpr => exact h.complete hd

theorem Outcome.finds_iff (h : Outcome references known) (hc : Complete references known) {e : Edge} :
    Finds known e ↔ ∃ first rest, Route references first rest ∧ e = composite first rest := by
  constructor
  case mp  => exact h.explored.exists_route hd
  case mpr => exact fun ⟨first, rest, hr, he⟩ => he ▸ hc first rest hr

-- If all references are apart, a kept route that is seen as the same edge as another one is either an
-- earlier part of it or goes on from it, so that the other one is kept too.
theorem Outcome.not_misses (h : Outcome references known) (ha : Edge.Apart references) :
    ¬ Misses references known := by
  rintro ⟨first, front, next, first', front', hr, ⟨path, hk, ht⟩, he, hx, hn⟩
  obtain ⟨hnext, hfresh, hne, hc⟩ := hr.compose?
  obtain ⟨first'', front'', ht'', hprefix⟩ := h.explored.exists_takes hd path hk
  have hx : next ∈ first'' :: front'' := by
    by_cases hu : next ∈ path.2
    case pos => exact absurd hx ((ht.unused next).mp hu).right
    case neg => exact Classical.not_not.mp fun hx => hu ((ht''.unused next).mpr ⟨hnext, hx⟩)
  have hs : (composite first front).source = (composite first'' front'').source := by
    rw [← he, ← ht.edge, ht''.edge]
  cases Edge.Route.comparable ha hr.initial ht''.route hs
  case inr hpre => exact hfresh (hpre.subset hx)
  case inl hpre =>
    obtain ⟨rfl, back, rfl⟩ := List.cons_prefix_cons.mp hpre
    obtain ⟨⟨e, unused⟩, hk, ht⟩ := hprefix front back rfl
    obtain rfl : e = composite first front := ht.edge
    exact hn (h.exhausted _ _ _ _ hk hne ((ht.unused next).mpr ⟨hnext, hfresh⟩) hc)

structure Traces (references : List Edge) (known : List Path) (first : Edge) (front : List Edge) : Prop where
  explored : Explored references known
  keeps    : Keeps references known first front
  only     : ∀ e, Finds known e →
    e ∈ references ∨ ∃ before after, front = before ++ after ∧ e = composite first before

-- No shorter route is seen as the same edge.
def Shortest (references : List Edge) (first : Edge) (rest : List Edge) : Prop :=
  ∀ first' rest', Route references first' rest' → composite first' rest' = composite first rest →
    rest.length ≤ rest'.length

theorem exists_traces (h : first ∈ references) : ∃ known, Traces references known first [] := by
  refine ⟨_, .start, ⟨_, List.mem_map_of_mem h, takes_single hd h⟩, fun e he => ?_⟩
  obtain ⟨unused, hm⟩ := he
  obtain ⟨x, hx, he⟩ := List.mem_map.mp hm
  cases he
  exact .inl hx

omit hd

-- The edge to which a route goes on is not found on the way, since the route could be shortened then.
theorem Traces.not_finds (h : Traces references known first front)
    (hr : Route references first (front ++ next :: back))
    (hs : Shortest references first (front ++ next :: back)) :
    ¬ Finds known (composite first (front ++ [next])) := by
  intro hf
  have hr : Route references first (front ++ [next] ++ back) := List.append_cons .. ▸ hr
  have hs : Shortest references first (front ++ [next] ++ back) := List.append_cons .. ▸ hs
  cases h.only _ hf
  case inl hm =>
    obtain ⟨hr', hc⟩ := hr.shortcut (.single hm) (Edge.composite_nil _) fun e he hm =>
      hr.composite_not_mem (List.mem_singleton.mp hm ▸ he)
    have := hs _ _ hr' hc
    simp only [List.length_append, List.length_cons, List.length_nil] at this
    omega
  case inr hm =>
    obtain ⟨before, after, rfl, he⟩ := hm
    obtain ⟨hr', hc⟩ := hr.shortcut hr.initial.initial.initial he.symm fun e he hm =>
      hr.not_mem_of_mem he (by
        rw [List.append_assoc, ← List.cons_append]
        exact List.mem_append_left _ hm)
    have := hs _ _ hr' hc
    simp only [List.length_append, List.length_cons, List.length_nil] at this
    omega

theorem Traces.extend (h : Traces references known first front)
    (hr : Route references first (front ++ next :: back))
    (hs : Shortest references first (front ++ next :: back)) :
    ∃ more, Traces references more first (front ++ [next]) := by
  have hn := h.not_finds hr hs
  obtain ⟨⟨e, unused⟩, hk, ht⟩ := h.keeps
  obtain rfl : e = composite first front := ht.edge
  obtain ⟨hm, hnew, hne, hc⟩ := hr.compose?
  have hu := (ht.unused next).mpr ⟨hm, hnew⟩
  refine ⟨_, h.explored.extend hk hne hu hc fun rest hk => hn ⟨rest, hk⟩,
    ⟨_, List.mem_cons_self, ht.concat hne hu hc⟩, fun e he => ?_⟩
  cases finds_cons.mp he
  case inl he => exact .inr ⟨front ++ [next], [], (List.append_nil _).symm, he⟩
  case inr he =>
    cases h.only e he
    case inl hm => exact .inl hm
    case inr hm =>
      obtain ⟨before, after, rfl, hb⟩ := hm
      exact .inr ⟨before, after ++ [next], List.append_assoc .., hb⟩

theorem Traces.run (h : Traces references known first front)
    (hr : Route references first (front ++ back)) (hs : Shortest references first (front ++ back)) :
    ∃ more, Traces references more first (front ++ back) := by
  induction back generalizing front known with
  | nil => exact ⟨known, by rwa [List.append_nil]⟩
  | cons next back ih =>
    obtain ⟨more, h⟩ := h.extend hr hs
    rw [List.append_cons] at hr hs ⊢
    exact ih h hr hs

include hd

theorem exists_explored_of_route (hr : Route references first rest) :
    ∃ known, Explored references known ∧ Finds known (composite first rest) := by
  induction hl : rest.length using Nat.strongRecOn generalizing first rest with
  | ind n ih =>
    by_cases hs : Shortest references first rest
    case pos =>
      obtain ⟨known, h⟩ := exists_traces hd (hr.among first List.mem_cons_self)
      obtain ⟨more, h⟩ := h.run hr hs
      obtain ⟨⟨e, unused⟩, hk, ht⟩ := h.keeps
      exact ⟨more, h.explored, unused, ht.edge ▸ hk⟩
    case neg =>
      simp only [Shortest, Classical.not_forall, Nat.not_le] at hs
      obtain ⟨first', rest', hr', hc, hlt⟩ := hs
      exact hc ▸ ih _ (hl ▸ hlt) hr' rfl

end Path

namespace Json

open JsonSchema.Path

variable {schema : Json}

-- The closure has the edges of all routes.
def ClosureComplete (schema : Json) : Prop :=
  ∀ first rest, Route schema.references first rest → composite first rest ∈ schema.closure

-- What is found in any order is the closure.
def ClosureUnordered (schema : Json) : Prop :=
  ∀ known, Outcome schema.references known → ∀ e, Finds known e ↔ e ∈ schema.closure

theorem exists_outcome (schema : Json) :
    ∃ known, Outcome schema.references known ∧ ∀ e, e ∈ schema.closure ↔ Finds known e := by
  obtain ⟨known, he, hx, hf⟩ := (ReferenceGraph.ofSchema schema).exists_explored
  exact ⟨known, ⟨he, hx⟩, hf⟩

-- If all orders come to the same, each has the edges of all routes, since there is an order for every route.
theorem closureUnordered_iff (hw : schema.WellFormed) :
    schema.ClosureUnordered ↔
      ∀ known, Outcome schema.references known → Complete schema.references known := by
  have hd := nodup_references hw
  constructor
  case mp =>
    intro hu known h first rest hr
    obtain ⟨some, he, unused, hm⟩ := exists_explored_of_route hd hr
    obtain ⟨more, he, hx, hs⟩ := he.exists_exhausted
    exact (hu known h _).mpr ((hu more ⟨he, hx⟩ _).mp ⟨unused, hs hm⟩)
  case mpr =>
    intro hc known h e
    obtain ⟨closed, hk, hf⟩ := schema.exists_outcome
    rw [hf, h.finds_iff hd (hc known h), hk.finds_iff hd (hc closed hk)]

-- The closure has the edges of all routes unless a route that is kept misses where another one goes on. It
-- is the same for all orders of exploration if and only if each of them has all edges. Both hold if the
-- references are apart.
theorem closure_complete_iff (hw : schema.WellFormed) :
    (∃ known, Outcome schema.references known ∧ (∀ e, e ∈ schema.closure ↔ Finds known e) ∧
      (schema.ClosureComplete ↔ ¬ Misses schema.references known)) ∧
    (schema.ClosureUnordered ↔
      ∀ known, Outcome schema.references known → Complete schema.references known) ∧
    (Edge.Apart schema.references → schema.ClosureComplete ∧ schema.ClosureUnordered) := by
  have hd := nodup_references hw
  obtain ⟨known, h, hf⟩ := schema.exists_outcome
  have hc : schema.ClosureComplete ↔ ¬ Misses schema.references known := by
    simp only [ClosureComplete, hf]
    exact h.complete_iff hd
  refine ⟨⟨known, h, hf, hc⟩, closureUnordered_iff hw, fun ha => ⟨?_, ?_⟩⟩
  case refine_1 => exact hc.mpr (h.not_misses hd ha)
  case refine_2 =>
    exact (closureUnordered_iff hw).mpr fun more hm => (hm.complete_iff hd).mpr (hm.not_misses hd ha)

theorem closure_complete_linkedList :
    linkedList.WellFormed ∧ Edge.Apart linkedList.references ∧ linkedList.ClosureComplete ∧
      linkedList.ClosureUnordered := by
  have hw : linkedList.WellFormed := by decide
  have ha : Edge.Apart linkedList.references := by decide +kernel
  exact ⟨hw, ha, (closure_complete_iff hw).right.right ha⟩

-- The entry refers to a record, and its holder to a person, so that there are two ways to the owner of the
-- holder's employer: as a record has it, and as a person has it.
def employment : Json :=
  .object [
    ("definitions", .object [
      ("company", .object [
        ("properties", .object [("owner", .object [("$ref", .string "#/definitions/person")])])]),
      ("person", .object [
        ("properties", .object [("employer", .object [("$ref", .string "#/definitions/company")])])]),
      ("record", .object [
        ("properties", .object [("holder", .object [
          ("properties", .object [("employer", .object [
            ("properties", .object [
              ("owner", .object [("$ref", .string "#/definitions/person")])])])])])])])]),
    ("properties", .object [
      ("entry", .object [
        ("$ref", .string "#/definitions/record"),
        ("properties", .object [("holder", .object [("$ref", .string "#/definitions/person")])])])])]

-- The first way goes on to the employer of the owner, which the second one has seen as that of the holder.
theorem not_closureComplete_employment :
    employment.WellFormed ∧ ¬ employment.ClosureComplete ∧ ¬ employment.ClosureUnordered := by
  have hw : employment.WellFormed := by decide
  have hr : ∃ first rest, Route employment.references first rest ∧
      composite first rest ∉ employment.closure :=
    ⟨⟨⟨["properties", "entry"]⟩, ⟨["definitions", "record"]⟩⟩,
      [⟨⟨["definitions", "record", "properties", "holder", "properties", "employer", "properties", "owner"]⟩,
          ⟨["definitions", "person"]⟩⟩,
        ⟨⟨["definitions", "person", "properties", "employer"]⟩, ⟨["definitions", "company"]⟩⟩],
      by decide +kernel, by decide +kernel⟩
  obtain ⟨first, rest, hr, hn⟩ := hr
  refine ⟨hw, fun hc => hn (hc _ _ hr), fun hu => ?_⟩
  obtain ⟨known, he, unused, hm⟩ := exists_explored_of_route (nodup_references hw) hr
  obtain ⟨more, he, hx, hs⟩ := he.exists_exhausted
  exact hn ((hu more ⟨he, hx⟩ _).mp ⟨unused, hs hm⟩)

end Json

end JsonSchema

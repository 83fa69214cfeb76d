import JsonSchema.Proofs.Expansion.Depth

namespace JsonSchema

def Json.ReferenceFree (j : Json) : Prop :=
  ∀ fields text, (Json.object fields).Occurs j → ("$ref", .string text) ∉ fields

def Json.FreeAt (key : String) (j : Json) : Prop :=
  j.ReferenceFree ∧ (key = "$ref" → ∀ text, j ≠ .string text)

theorem Json.referenceFree_array {items : List Json} :
    (Json.array items).ReferenceFree ↔ ∀ j ∈ items, j.ReferenceFree := by
  constructor
  case mp => exact fun h j hj fields text ho => h fields text (.item hj ho)
  case mpr =>
    intro h fields text ho
    cases ho with
    | item hj ho => exact h _ hj fields text ho

namespace Json.FreeAt

variable {key : String} {fields : Fields} {j : Json}

theorem loose (h : j.ReferenceFree) : FreeAt "" j :=
  ⟨h, fun hk => absurd hk (by decide)⟩

theorem object_iff : FreeAt key (.object fields) ↔ ∀ k j, (k, j) ∈ fields → FreeAt k j := by
  constructor
  case mp =>
    refine fun ⟨h, _⟩ k j hj => ⟨fun others text ho => h others text (.field hj ho), ?_⟩
    rintro rfl text rfl
    exact h fields text .self hj
  case mpr =>
    refine fun h => ⟨fun others text ho => ?_, fun _ _ => by simp⟩
    cases ho with
    | self        => exact fun hm => (h _ _ hm).right rfl text rfl
    | field hm ho => exact (h _ _ hm).left others text ho

end Json.FreeAt

open Json (FreeAt)
open Diagnosed (returns_pure)

theorem Merge.stable_freeAt : Merge.Stable FreeAt where
  item h hj     := .loose (Json.referenceFree_array.mp h.left _ hj)
  array h       := ⟨Json.referenceFree_array.mpr fun j hj => (h j hj).left, by simp⟩
  field h hj    := FreeAt.object_iff.mp h _ _ hj
  object _ h    := FreeAt.object_iff.mpr (FreeAt.object_iff.mp h)
  loose h       := .loose h.left
  empty _       := FreeAt.object_iff.mpr (by simp)
  insert h hj   := FreeAt.object_iff.mpr fun k i hi => by
    cases Fields.mem_insert hi
    case inl he => cases he; exact hj
    case inr hi => exact FreeAt.object_iff.mp h k i hi
  filter p h    := FreeAt.object_iff.mpr fun k j hj => FreeAt.object_iff.mp h k j (List.mem_filter.mp hj).left
  map h hf      := FreeAt.object_iff.mpr fun k j hj => by
    obtain ⟨⟨k, i⟩, hi, he⟩ := List.mem_map.mp hj
    cases he
    exact hf k i hi
  bool _ _      := ⟨by rintro _ _ ⟨⟩, by simp⟩
  text _ hk     := ⟨by rintro _ _ ⟨⟩, fun he => absurd he hk⟩
  multiple _ _  := ⟨by rintro _ _ ⟨⟩, by simp⟩

namespace Expansion

variable {s : Source} {options : Options} {used : List Pointer} {place p target : Pointer} {j : Json}
  {e : Edge} {expand : Pointer → Diagnosed (Option Json)}

-- An object under `$ref` stands for a text.
def Source.Poses (s : Source) (options : Options) (place : Pointer) (text : String) : Prop :=
  ∃ fields value, (place, .object fields) ∈ s.schema.nodes .root ∧
    Fields.get? fields "$ref" = some (.object value) ∧ StandsFor s options (.object value) (.string text)

-- A reference of the schema, perhaps one whose text an object stands for.
def Source.Refers (s : Source) (options : Options) (e : Edge) : Prop :=
  e ∈ s.schema.references ∨
    ∃ text, s.Poses options e.source text ∧ Pointer.parse? text = some e.target

-- A reference lies in the target of another one.
def Source.LeadsTo (s : Source) (options : Options) (e next : Edge) : Prop :=
  s.Refers options e ∧ s.Refers options next ∧ next.source.isWithin e.target = true

-- References lead to nodes of the schema, and none leads to itself. There are no shorter pointers.
structure Source.Acyclic (s : Source) (options : Options) : Prop where
  wellFormed : s.schema.WellFormed
  shorten (p : Pointer) : s.shorten p = p
  find? (p : Pointer) : s.find? p = s.schema.get? p
  exists_get? {place text} : (∃ fields value, (place, .object fields) ∈ s.schema.nodes .root ∧
      Fields.get? fields "$ref" = some value ∧ StandsFor s options value (.string text)) →
    ∃ target, Pointer.parse? text = some target ∧ (s.schema.get? target).isSome ∧
      s.Refers options ⟨place, target⟩
  not_leadsTo (e : Edge) : ¬ Relation.TransGen (s.LeadsTo options) e e

-- From each pointer in use references lead to all those that lie in the target.
def Source.Traced (s : Source) (options : Options) (used : List Pointer) (target : Pointer) : Prop :=
  ∀ q ∈ used, ∀ e, s.Refers options e → e.source.isWithin target = true →
    ∃ first, s.Refers options first ∧ first.source.isWithin q = true ∧
      (first = e ∨ Relation.TransGen (s.LeadsTo options) first e)

namespace Source

theorem traced_self (s : Source) (options : Options) (p : Pointer) : s.Traced options [p] p := by
  intro q hq e he hw
  cases List.mem_singleton.mp hq
  exact ⟨e, he, hw, .inl rfl⟩

theorem Traced.next (h : s.Traced options used p) (he : s.Refers options e)
    (hp : e.source.isWithin p = true) : s.Traced options (used ++ [e.target]) e.target := by
  intro q hq f hf hw
  cases List.mem_append.mp hq
  case inr hq =>
    cases List.mem_singleton.mp hq
    exact ⟨f, hf, hw, .inl rfl⟩
  case inl hq =>
    obtain ⟨first, hr, hs, hl⟩ := h q hq e he hp
    have hstep : s.LeadsTo options e f := ⟨he, hf, hw⟩
    obtain rfl | hl := hl
    case inl => exact ⟨first, hr, hs, .inr (.single hstep)⟩
    case inr => exact ⟨first, hr, hs, .inr (hl.tail hstep)⟩

-- A reference back would close a cycle.
theorem Traced.not_leadsBack (h : s.Traced options used p) (ha : s.Acyclic options)
    (he : s.Refers options e) (hp : e.source.isWithin p = true) :
    leadsBack used e.source e.target = false := by
  have hself : e.source.isWithin e.target = false := by
    exact Bool.eq_false_iff.mpr fun hw => ha.not_leadsTo e (.single ⟨he, he, hw⟩)
  have hroot : e.target.isRoot = false := by
    refine Bool.eq_false_iff.mpr fun hr => ?_
    rw [Pointer.isWithin, List.isEmpty_iff.mp hr] at hself
    simp at hself
  have hused (q : Pointer) (hq : q ∈ used) : q.isWithin e.target = false := by
    refine Bool.eq_false_iff.mpr fun hw => ?_
    obtain ⟨first, hr, hs, hl⟩ := h q hq e he hp
    have hstep : s.LeadsTo options e first := ⟨he, hr, Pointer.isWithin_trans hs hw⟩
    obtain rfl | hl := hl
    case inl => exact ha.not_leadsTo first (.single hstep)
    case inr => exact ha.not_leadsTo e (.trans (.single hstep) hl)
  simpa [leadsBack, hroot, hself] using hused

end Source

theorem Requests.refers (ha : s.Acyclic options) (hexp : ShowsTargets s options expand)
    (h : Requests options used expand j place target) (hj : (place, j) ∈ s.schema.nodes .root) :
    ∃ e, s.Refers options e ∧ e.source.isWithin place = true ∧ e.target = target ∧
      (s.schema.get? target).isSome := by
  induction h with
  | item hi _ ih =>
    obtain ⟨e, he, hw, ht⟩ := ih (Json.mem_nodes_of_item hj hi)
    exact ⟨e, he, Pointer.isWithin_trans hw (Pointer.child_isWithin ..), ht⟩
  | field hm _ ih =>
    obtain ⟨e, he, hw, ht⟩ := ih (Json.mem_nodes_of_field hj hm)
    exact ⟨e, he, Pointer.isWithin_trans hw (Pointer.child_isWithin ..), ht⟩
  | @self fields mapped place target hm hr =>
    obtain ⟨text, hg, hp, _⟩ := referenceOf_eq_target_iff.mp hr
    obtain ⟨value, hv, hs⟩ := (mapPostFields_shows hexp mapped hm).get? hg
    obtain ⟨other, ho, hg, he⟩ := ha.exists_get? ⟨fields, value, hj, hv, hs.standsFor⟩
    cases hp.symm.trans ho
    exact ⟨_, he, Pointer.isWithin_refl place, rfl, hg⟩

section Nodes

variable (ha : s.Acyclic options) (ht : s.Traced options used p)

include ha ht

theorem rebuild_referenceFree {fields mapped : Fields} (hj : (place, .object fields) ∈ s.schema.nodes .root)
    (hw : place.isWithin p = true)
    (hm : Json.RebuiltFields (fun _ => Shows s options) place fields mapped)
    (hf : ∀ k j, (k, j) ∈ mapped → j.ReferenceFree)
    (hfree : ∀ target, referenceOf used place mapped = .target target →
      (expand target).Returns fun r => ∃ e, r = some e ∧ e.ReferenceFree) :
    (rebuild options used expand (.object mapped) place).Returns Json.ReferenceFree := by
  by_cases hr : ∃ text, Fields.get? mapped "$ref" = some (.string text)
  case pos =>
    obtain ⟨text, hg⟩ := hr
    obtain ⟨value, hv, hs⟩ := hm.get? hg
    obtain ⟨target, hp, _, he⟩ := ha.exists_get? ⟨fields, value, hj, hv, hs.standsFor⟩
    have href : referenceOf used place mapped = .target target :=
      referenceOf_eq_target_iff.mpr ⟨text, hg, hp, ht.not_leadsBack ha he hw⟩
    have hrest : FreeAt "" (.object (Fields.erase "$ref" mapped)) := by
      refine FreeAt.object_iff.mpr fun k j hj => ?_
      obtain ⟨hj, hk⟩ := List.mem_filter.mp hj
      exact ⟨hf k j hj, fun he => by simp [he] at hk⟩
    simp only [rebuild, href]
    refine (hfree target href).bind fun r hr => ?_
    obtain ⟨e, rfl, he⟩ := hr
    exact fun e hw => (Merge.stable_freeAt.withSiblings (.loose he) hrest e hw).left
  case neg =>
    have hs : Fields.Sorted mapped :=
      (Json.wellFormed_object.mp (ha.wellFormed.of_mem_nodes hj)).left.of_keys_eq hm.keys
    have hall : FreeAt "" (.object mapped) := by
      refine FreeAt.object_iff.mpr fun k j hj => ⟨hf k j hj, ?_⟩
      rintro rfl text rfl
      exact hr ⟨text, hs.get? hj⟩
    have href : (Fields.get? mapped "$ref").bind Json.asString? = none := by
      cases hv : Fields.get? mapped "$ref" with
      | none => rfl
      | some value =>
        cases value <;> try rfl
        case string text => exact absurd ⟨text, hv⟩ hr
    simp only [rebuild, referenceOf, href]
    exact fun e hw => (Merge.stable_freeAt.tidy hall e hw).left

-- The induction is on the node, whose parts are rebuilt before it.
theorem mapPost_referenceFree (hexp : ShowsTargets s options expand)
    (hfree : ∀ target, Requests options used expand j place target →
      (expand target).Returns fun r => ∃ e, r = some e ∧ e.ReferenceFree)
    (hj : (place, j) ∈ s.schema.nodes .root) (hw : place.isWithin p = true) :
    (j.mapPost (rebuild options used expand) place).Returns Json.ReferenceFree := by
  induction j using Json.induct generalizing place
  case null | bool | number | string => exact returns_pure (by rintro _ _ ⟨⟩)
  case array items ih =>
    have hitems : (Json.mapPostItems (rebuild options used expand) place 0 items).Returns
        (Json.RebuiltItems (fun _ _ => Json.ReferenceFree) place 0 items) :=
      Json.mapPostItems_returns 0 fun i j hi => by
        rw [Nat.zero_add]
        exact ih j (List.mem_of_getElem? hi) (fun target h => hfree target (.item hi h))
          (Json.mem_nodes_of_item hj hi) (Pointer.isWithin_trans (Pointer.child_isWithin ..) hw)
    refine hitems.bind fun mapped hm => returns_pure (Json.referenceFree_array.mpr fun e he => ?_)
    obtain ⟨i, hi⟩ := List.mem_iff_getElem?.mp he
    obtain ⟨_, _, hfree⟩ := hm.item hi
    exact hfree
  case object fields ih =>
    have hfields : (Json.mapPostFields (rebuild options used expand) place fields).Returns
        (Json.RebuiltFields (fun _ _ => Json.ReferenceFree) place fields) :=
      Json.mapPostFields_returns fun k j hf =>
        ih k j hf (fun target h => hfree target (.field hf h)) (Json.mem_nodes_of_field hj hf)
          (Pointer.isWithin_trans (Pointer.child_isWithin ..) hw)
    refine hfields.with_result.bind fun mapped ⟨hr, hm⟩ => ?_
    refine rebuild_referenceFree ha ht hj hw (mapPostFields_shows hexp mapped hr) (fun k e he => ?_)
      fun target ht => hfree target (.self hr ht)
    obtain ⟨_, _, hfree⟩ := hm.field he
    exact hfree

end Nodes

-- No reference is left of an expansion that never is out of fuel. The induction is on the fuel.
theorem expandAlong_referenceFree (ha : s.Acyclic options) {depth : Nat}
    (hc : (Call.mk depth used target).Ample s options)
    (ht : s.Traced options (used ++ [target]) target) (hg : (s.schema.get? target).isSome) :
    (expandAlong s options depth used target).Returns fun r => ∃ e, r = some e ∧ e.ReferenceFree := by
  induction depth generalizing used target with
  | zero =>
    obtain ⟨_, hd⟩ := hc.exists_depth
    cases hd
  | succ depth ih =>
    obtain ⟨node, hn⟩ := Option.isSome_iff_exists.mp hg
    have hf : s.find? target = some node := (ha.find? target).trans hn
    have hu : s.pointersOf target = [target] := by simp [Source.pointersOf, ha.shorten]
    have hj := Json.mem_nodes_of_get? hn
    have hexp := expandAlong_shows s options depth (used ++ s.pointersOf target)
    rw [expandAlong_of_find? hf]
    rw [hu] at hexp ⊢
    have hm := mapPost_referenceFree ha ht hexp (fun next hr => ?_) hj (Pointer.isWithin_refl target)
    case refine_2 =>
      refine hm.bind fun e he => returns_pure ⟨e, rfl, he⟩
    case refine_1 =>
      obtain ⟨e, he, hw, rfl, hg⟩ := hr.refers ha hexp hj
      exact ih (hc.of_makes ⟨node, hf, rfl, hu ▸ rfl, hr⟩) (ht.next he hw) hg

end Expansion

end JsonSchema

import JsonSchema.Proofs.Merge.Leniency
import JsonSchema.Proofs.Merge.Rules

namespace JsonSchema.Merge

open Validator

variable {merge : List Json → Option Json} {keyword : String} {current incoming value s j : Json}

-- A schema asks for nothing that the given ones do not ask for. It is an object if they are.
structure Follows (merged : Json) (schemas : List Json) : Prop where
  flagFree : merged.FlagFree
  object   : (∀ s ∈ schemas, ∃ fields, s = .object fields) → ∃ fields, merged = .object fields
  lenient  : ∀ j, j.Instance → (∀ s ∈ schemas, Lenient s j) → Lenient merged j

-- What schemas are merged to asks for nothing else.
def Weakens (merge : List Json → Option Json) : Prop :=
  ∀ schemas merged, (∀ s ∈ schemas, s.FlagFree ∧ s.WellFormed) → merge schemas = some merged →
    Follows merged schemas

-- The value of a keyword that asks for nothing that two values do not ask for.
structure Eases (keyword : String) (current incoming value : Json) : Prop where
  flagFree : FlagFreeAt keyword value
  asks     : ∀ j, j.Instance → Asks keyword current j → Asks keyword incoming j →
    Asks keyword value j

-- What two values, each of which may be missing, are merged to follows from them.
structure Implied (Fit : Json → Prop) (Means : Json → Json → Prop) (left right merged : Option Json) :
    Prop where
  fit   : ∀ v ∈ merged, Fit v
  means : ∀ j, j.Instance → (∀ v ∈ left, Means v j) → (∀ v ∈ right, Means v j) →
    ∀ v ∈ merged, Means v j

namespace Implied

variable {Fit : Json → Prop} {Means : Json → Json → Prop} {left right merged : Option Json}

theorem symm (h : Implied Fit Means left right merged) : Implied Fit Means right left merged where
  fit   := h.fit
  means := fun j hj hl hr => h.means j hj hr hl

theorem left_of (hf : ∀ v ∈ left, Fit v) : Implied Fit Means left right left where
  fit   := hf
  means := fun _ _ hl _ => hl

theorem right_of (hf : ∀ v ∈ right, Fit v) : Implied Fit Means left right right where
  fit   := hf
  means := fun _ _ _ hr => hr

theorem means_some {a b c : Json} (h : Implied Fit Means (some a) (some b) (some c)) (hj : j.Instance)
    (ha : Means a j) (hb : Means b j) : Means c j :=
  h.means j hj (by simpa using ha) (by simpa using hb) c rfl

end Implied

theorem United.implied {Fit : Json → Prop} {Means : Json → Json → Prop}
    {combine : Json → Json → Option Json} {key : String} {left merged : Option Json} {value : Json}
    (h : United combine key left value merged) (hl : ∀ v ∈ left, Fit v) (hv : Fit value)
    (hc : ∀ existing ∈ left, ∀ combined, combine existing value = some combined →
      Implied Fit Means (some existing) (some value) (some combined)) :
    Implied Fit Means left (some value) merged := by
  refine h.elim (P := (Implied Fit Means · (some value) ·)) ?alone ?same hc
  case alone => exact .right_of (by simpa using hv)
  case same  => exact fun existing he _ => .left_of (by simpa using hl existing he)

theorem follows_allOf {schemas : List Json} (h : ∀ s ∈ schemas, s.FlagFree) :
    Follows (allOf (substantial schemas)) schemas where
  flagFree := flagFree_allOf fun s hs => h s (mem_of_mem_substantial hs)
  object   := fun _ => ⟨_, rfl⟩
  lenient  := fun _ _ hl => lenient_allOf.mpr fun s hs => hl s (mem_of_mem_substantial hs)

section Schemas

variable (hm : Weakens merge)

include hm

theorem Weakens.conjoin {schemas : List Json} (h : ∀ s ∈ schemas, s.FlagFree ∧ s.WellFormed) :
    Follows (conjoin merge schemas) schemas := by
  unfold Merge.conjoin
  cases hs : merge schemas
  case some merged => exact hm _ _ h hs
  case none        => exact follows_allOf fun s hs => (h s hs).left

theorem Weakens.implied_conjoin {a b : Json} (ha : a.FlagFree ∧ a.WellFormed)
    (hb : b.FlagFree ∧ b.WellFormed) :
    Implied Json.FlagFree Lenient (some a) (some b) (some (Merge.conjoin merge [a, b])) := by
  have h : Follows (Merge.conjoin merge [a, b]) [a, b] := hm.conjoin (by simp [ha, hb])
  refine ⟨by simpa using h.flagFree, fun j hj hl hr => ?_⟩
  simpa using h.lenient j hj (by simpa using And.intro (hl a rfl) (hr b rfl))

theorem Weakens.exists_conjoin {left right : Fields}
    (hl : (Json.object left).FlagFree ∧ (Json.object left).WellFormed)
    (hr : (Json.object right).FlagFree ∧ (Json.object right).WellFormed) :
    ∃ fields, Merge.conjoin merge [.object left, .object right] = .object fields :=
  (hm.conjoin (by simp [hl, hr])).object (by simp)

theorem Weakens.mergeSchema? {a b merged : Json} (ha : a.FlagFree ∧ a.WellFormed)
    (hb : b.FlagFree ∧ b.WellFormed) (h : Merge.mergeSchema? merge a b = some merged) :
    Implied Json.FlagFree Lenient (some a) (some b) (some merged) := by
  unfold Merge.mergeSchema? at h
  split at h <;> cases h
  case h_1 | h_4 => exact .left_of (by simpa using ha.left)
  case h_2 | h_3 => exact .right_of (by simpa using hb.left)
  case h_5       => exact hm.implied_conjoin ha hb

theorem Weakens.mergeConjunction (hc : FlagFreeAt "allOf" current) (hi : FlagFreeAt "allOf" incoming)
    (hwc : current.WellFormed) (hwi : incoming.WellFormed) :
    (mergeConjunction merge current incoming).Ensures (Eases "allOf" current incoming) := by
  unfold Merge.mergeConjunction
  split
  case h_2 => trivial
  case h_1 left right =>
    have h : ∀ s ∈ left ++ right, s.FlagFree ∧ s.WellFormed := by
      intro s hs
      cases List.mem_append.mp hs
      case inl hs => exact ⟨hc.below s (.allOf hs), Json.wellFormed_array.mp hwc s hs⟩
      case inr hs => exact ⟨hi.below s (.allOf hs), Json.wellFormed_array.mp hwi s hs⟩
    have ha {j : Json} (hl : Asks "allOf" (.array left) j) (hr : Asks "allOf" (.array right) j) :
        ∀ s ∈ left ++ right, Lenient s j :=
      List.forall_mem_append.mpr ⟨asks_allOf.mp hl, asks_allOf.mp hr⟩
    split
    case h_1 single hs =>
      have hs := hm _ _ h hs
      refine ⟨flagFreeAt_array (by simpa using hs.flagFree), fun j hj hl hr => asks_allOf.mpr ?_⟩
      simpa using hs.lenient j hj (ha hl hr)
    case h_2 =>
      refine ⟨flagFreeAt_array fun s hs => (h s (mem_of_mem_substantial hs)).left, ?_⟩
      exact fun j hj hl hr => asks_allOf.mpr fun s hs => ha hl hr s (mem_of_mem_substantial hs)

theorem Weakens.mergeItems (hc : FlagFreeAt "items" current) (hi : FlagFreeAt "items" incoming)
    (hwc : current.WellFormed) (hwi : incoming.WellFormed) :
    (mergeItems merge current incoming).Ensures (Eases "items" current incoming) := by
  have ht {slots : List Json} (h : ∀ s ∈ slots, s.FlagFree) :
      Eases "items" current incoming (.array slots) :=
    ⟨flagFreeAt_array h, fun _ _ _ _ => asks_items.mpr fun _ _ _ _ => lenient_array⟩
  have hs {tuple : List Json} {list : Fields} (h : FlagFreeAt "items" (.array tuple))
      (hw : (Json.array tuple).WellFormed) (hl : FlagFreeAt "items" (.object list))
      (hwl : (Json.object list).WellFormed) :
      (mergeSlots merge tuple (.object list)).Ensures (Eases "items" current incoming) := by
    unfold mergeSlots
    split
    case isTrue  => trivial
    case isFalse =>
      refine ht fun s hs => ?_
      obtain ⟨slot, hmem, rfl⟩ := List.mem_map.mp hs
      have hslot := And.intro (h.below slot (.slot hmem)) (Json.wellFormed_array.mp hw slot hmem)
      exact (hm.implied_conjoin hslot ⟨hl.below _ .items, hwl⟩).fit _ rfl
  unfold Merge.mergeItems
  split
  case h_1 left right =>
    dsimp only
    split
    case isTrue  => trivial
    case isFalse => exact ht fun s hs => hc.below s (.slot (Json.mem_of_mem_intersect hs))
  case h_2 left right =>
    have hl := And.intro (hc.below _ .items) hwc
    have hr := And.intro (hi.below _ .items) hwi
    have h := hm.implied_conjoin hl hr
    obtain ⟨fields, he⟩ := hm.exists_conjoin hl hr
    rw [he] at h ⊢
    refine ⟨flagFreeAt_object (h.fit _ rfl) (by decide), fun j hj hal har => asks_items.mpr ?_⟩
    rintro items rfl part hp
    exact h.means_some (hj.item hp) (asks_items.mp hal items rfl part hp)
      (asks_items.mp har items rfl part hp)
  case h_3 => exact hs hc hwc hi hwi
  case h_4 => exact hs hi hwi hc hwc
  case h_5 => trivial

end Schemas

theorem eases_plain (hn : Applicator.ofName? keyword = none) (hf : FlagFreeAt keyword value)
    (h : ∀ j : Json, j.Instance → (keyword = "enum" → j.NumberFree) → Demands keyword current j →
      Demands keyword incoming j → Demands keyword value j) :
    Eases keyword current incoming value := by
  refine ⟨hf, fun j hj hc hi => ?_⟩
  rw [asks_plain hj hn] at hc hi ⊢
  intro ha
  have he (v : Json) : ¬ Approximate keyword v j := by
    rintro (hm | ⟨rfl, _⟩ | hm)
    case inl         => exact ha (.inl hm)
    case inr.inl     => simp [Applicator.ofName?] at hn
    case inr.inr     => exact ha (.inr (.inr hm))
  refine h j hj (fun hk => Classical.byContradiction fun hf => ?_) (hc (he _)) (hi (he _))
  exact he value (.inr (.inr ⟨hk, hf⟩))

theorem eases_mergeBound {tighter : Binary64 → Binary64 → Bool} (hc : FlagFreeAt keyword current)
    (hi : FlagFreeAt keyword incoming) :
    (mergeBound tighter current incoming).Ensures (Eases keyword current incoming) := by
  unfold mergeBound
  split
  case h_2 => trivial
  case h_1 =>
    split
    case isTrue  => exact ⟨hi, fun _ _ _ h => h⟩
    case isFalse => exact ⟨hc, fun _ _ h _ => h⟩

theorem eases_mergeTypes (current incoming : Json) :
    (mergeTypes current incoming).Ensures (Eases "type" current incoming) := by
  have h := joins_mergeTypes current incoming
  cases ho : mergeTypes current incoming <;> rw [ho] at h
  case drop | conflict => trivial
  case keep value =>
    refine eases_plain rfl (flagFreeAt_plain (by decide) fun hk => absurd hk (by decide)) ?_
    exact fun j hj _ hl hr => (h.demands j hj).mpr ⟨hl, hr⟩

theorem eases_mergeFlags (current incoming : Json) :
    (mergeFlags current incoming).Ensures (Eases "uniqueItems" current incoming) := by
  unfold mergeFlags
  split
  case h_2 => trivial
  case h_1 left right =>
    refine eases_plain rfl (flagFreeAt_plain (by decide) fun hk => absurd hk (by decide)) ?_
    exact fun j hj _ hl hr => ((joins_mergeFlags left right).demands j hj).mpr ⟨hl, hr⟩

theorem eases_mergeNames (hc : FlagFreeAt "required" current) :
    (mergeNames current incoming).Ensures (Eases "required" current incoming) := by
  unfold mergeNames
  split
  case h_1 left right =>
    refine eases_plain rfl (flagFreeAt_plain (by decide) (by simp)) ?_
    exact fun j hj _ hl hr => ((joins_mergeNames left right).demands j hj).mpr ⟨hl, hr⟩
  case h_2 =>
    unfold mergeFlags
    split
    case h_1 => exact absurd rfl (hc.noFlag (by decide) _)
    case h_2 => trivial

theorem numberFree_of_mem_enumerated (hn : j.NumberFree) {i : Json} (hi : i ∈ enumerated j) :
    i.NumberFree := by
  cases j
  case array items =>
    cases hn
    case array hn => exact hn i hi
  all_goals exact List.mem_singleton.mp hi ▸ hn

theorem exists_mem_intersect {left right : List Json} {i a b : Json} (hi : i.NumberFree)
    (hw : i.WellFormed) (hwl : ∀ a ∈ left, a.WellFormed) (hwr : ∀ b ∈ right, b.WellFormed)
    (ha : a ∈ left) (hai : Json.similar a i = true) (hb : b ∈ right) (hbi : Json.similar b i = true) :
    ∃ c ∈ Json.intersect left right, Json.similar c i = true := by
  obtain rfl := ((hi.of_similar hai).similar_iff (hwl a ha) hw).mp hai
  obtain rfl := ((hi.of_similar hbi).similar_iff (hwr b hb) hw).mp hbi
  have hm : b ∈ left.filter (Json.isMember right) :=
    List.mem_filter.mpr ⟨ha, List.any_eq_true.mpr ⟨b, hb, hi.same_iff.mpr rfl⟩⟩
  obtain ⟨c, hc, hs⟩ := Json.exists_mem_distinct hm
  refine ⟨c, hc, ?_⟩
  cases hs
  case inl hs => exact hs ▸ hai
  case inr hs => exact (Json.similar_eq_of_canonical (Json.canonical_eq_of_same hs) b).trans hai

theorem eases_mergeAlternatives (hk : keyword ∈ ["anyOf", "oneOf", "enum"])
    (hc : FlagFreeAt keyword current) (hwc : current.WellFormed) (hwi : incoming.WellFormed) :
    (mergeAlternatives current incoming).Ensures (Eases keyword current incoming) := by
  unfold mergeAlternatives
  split
  case h_2 => trivial
  case h_1 left right =>
    dsimp only
    split
    case isTrue  => trivial
    case isFalse =>
      have hf := hc.subset fun s (hs : s ∈ Json.intersect left right) => Json.mem_of_mem_intersect hs
      simp only [List.mem_cons, List.not_mem_nil, or_false] at hk
      rcases hk with rfl | rfl | rfl
      case inl | inr.inl => exact ⟨hf, fun j _ _ _ => asks_approximate (by decide)⟩
      case inr.inr =>
        refine eases_plain rfl hf fun j hj hn hl hr => ?_
        rw [demands_enum hj, holds_enum] at hl hr ⊢
        intro i hi
        have hf := numberFree_of_mem_enumerated (hn rfl) hi
        have hw := wellFormed_of_mem_enumerated hj.wellFormed hi
        obtain ⟨a, ha, hai⟩ := hl i hi
        obtain ⟨b, hb, hbi⟩ := hr i hi
        exact exists_mem_intersect hf hw (Json.wellFormed_array.mp hwc) (Json.wellFormed_array.mp hwi)
          ha hai hb hbi

theorem satisfies_anyOf {members : List Json} :
    Satisfies (anyOf members) j ↔ members = [] ∨ ∃ s ∈ members, Satisfies s j := by
  rw [anyOf, satisfies_object]
  simp only [List.mem_singleton, Prod.mk.injEq, and_imp, forall_eq_apply_imp_iff, forall_eq]
  exact .rfl

theorem satisfies_of_refused (h : refused s = [] ∨ ∃ r ∈ refused s, Satisfies r j) : Satisfies s j := by
  unfold refused at h
  split at h
  case h_1 => exact satisfies_anyOf.mpr h
  case h_2 => simpa using h

theorem flagFree_of_mem_refused (hs : s.FlagFree) {r : Json} (hr : r ∈ refused s) : r.FlagFree := by
  unfold refused at hr
  split at hr
  case h_1 => exact (flagFree_object.mp hs _ _ List.mem_cons_self).below r (.anyOf hr)
  case h_2 => exact List.mem_singleton.mp hr ▸ hs

theorem flagFree_anyOf {members : List Json} (h : ∀ s ∈ members, s.FlagFree) :
    (anyOf members).FlagFree := by
  refine flagFree_object.mpr fun keyword value hm => ?_
  cases List.mem_singleton.mp hm
  exact flagFreeAt_array h

theorem eases_mergeNegation (hc : FlagFreeAt "not" current) (hi : FlagFreeAt "not" incoming) :
    (mergeNegation current incoming).Ensures (Eases "not" current incoming) := by
  unfold mergeNegation
  split
  case h_2 => trivial
  case h_1 left right =>
    constructor
    case flagFree =>
      refine flagFreeAt_schema (flagFree_anyOf fun s hs => ?_) (by decide)
      cases Json.mem_of_mem_union hs
      case inl hs => exact flagFree_of_mem_refused (hc.below _ .not) hs
      case inr hs => exact flagFree_of_mem_refused (hi.below _ .not) hs
    case asks =>
      intro j hj hl hr
      rw [asks_not] at hl hr ⊢
      intro h
      cases satisfies_anyOf.mp h
      case inl hn =>
        refine hl (satisfies_of_refused (.inl (List.eq_nil_iff_forall_not_mem.mpr fun s hs => ?_)))
        have ⟨t, ht, _⟩ : ∃ t ∈ Json.union (refused (.object left)) (refused (.object right)),
            t.canonical = s.canonical := Json.exists_mem_union (.inl hs)
        simp [hn] at ht
      case inr h =>
        obtain ⟨s, hs, h⟩ := h
        cases Json.mem_of_mem_union hs
        case inl hs => exact hl (satisfies_of_refused (.inr ⟨s, hs, h⟩))
        case inr hs => exact hr (satisfies_of_refused (.inr ⟨s, hs, h⟩))

theorem exists_dependencySchema {d : Json} (h : dependencySchema? d = some s)
    (hd : d.FlagFree ∧ d.WellFormed) :
    ∃ fields, s = .object fields ∧ (s.FlagFree ∧ s.WellFormed) ∧ ∀ j, Depends d j → Lenient s j := by
  unfold dependencySchema? at h
  split at h <;> cases h
  case h_2 => exact ⟨_, rfl, hd, fun j h => h.right⟩
  case h_1 names =>
    refine ⟨_, rfl, ⟨flagFree_object.mpr fun k v hm => ?_, hd.right.singleton⟩, fun j h => ?_⟩
    case refine_1 =>
      cases List.mem_singleton.mp hm
      exact flagFreeAt_plain (by decide) (by simp)
    case refine_2 =>
      refine (lenient_singleton (by decide) .rfl).mpr ⟨fun _ fields hf => h.left names fields rfl hf, ?_⟩
      intro s part hh
      exact absurd hh (not_hands rfl)

theorem Weakens.mergeDependency? (hm : Weakens merge) {a b merged : Json}
    (ha : a.FlagFree ∧ a.WellFormed) (hb : b.FlagFree ∧ b.WellFormed)
    (h : Merge.mergeDependency? merge a b = some merged) :
    Implied Json.FlagFree Depends (some a) (some b) (some merged) := by
  unfold Merge.mergeDependency? at h
  split at h
  case h_1 left right =>
    cases h
    refine ⟨?_, fun j hj hl hr => ?_⟩
    case refine_1 => rintro _ ⟨⟩; exact flagFree_of_ne_object (by simp)
    case refine_2 =>
      rintro _ ⟨⟩
      refine ⟨?_, lenient_array⟩
      rintro _ fields ⟨⟩ hf name hn
      cases Json.mem_of_mem_union hn
      case inl hn => exact (hl _ rfl).left left fields rfl hf name hn
      case inr hn => exact (hr _ rfl).left right fields rfl hf name hn
  case h_2 =>
    split at h <;> cases h
    case h_1 left right hsl hsr =>
      obtain ⟨lf, rfl, hl, hll⟩ := exists_dependencySchema hsl ha
      obtain ⟨rf, rfl, hr, hlr⟩ := exists_dependencySchema hsr hb
      have hs := hm.implied_conjoin hl hr
      obtain ⟨fields, he⟩ := hm.exists_conjoin hl hr
      rw [he] at hs ⊢
      refine ⟨hs.fit, fun j hj hda hdb => ?_⟩
      rintro _ ⟨⟩
      exact ⟨by simp, hs.means_some hj (hll j (hda a rfl)) (hlr j (hdb b rfl))⟩

theorem Weakens.mergeDependencies (hm : Weakens merge) (hp : Preserves merge)
    (hc : FlagFreeAt "dependencies" current) (hi : FlagFreeAt "dependencies" incoming)
    (hwc : current.WellFormed) (hwi : incoming.WellFormed) :
    (mergeFields (Merge.mergeDependency? merge) current incoming).Ensures
      (Eases "dependencies" current incoming) := by
  unfold mergeFields
  split
  case h_2 => trivial
  case h_1 left right =>
    refine Outcome.ensures_ofOption fun value hv => ?_
    obtain ⟨merged, hu, rfl⟩ := Option.map_eq_some_iff.mp hv
    obtain ⟨hsr, hwr⟩ := Json.wellFormed_object.mp hwi
    have hwm : (Json.object merged).WellFormed :=
      wellFormed_unionFields? (fun _ _ _ ha hb => hp.mergeDependency? ha hb) hwc hwr hu
    obtain ⟨hsm, _⟩ := Json.wellFormed_object.mp hwm
    have hd name : Implied Json.FlagFree Depends (Fields.get? left name) (Fields.get? right name)
        (Fields.get? merged name) := by
      have hu := updates_unionFields? hu
      have hl d (hd : d ∈ Fields.get? left name) : d.FlagFree ∧ d.WellFormed :=
        ⟨hc.below d (.dependency (Fields.mem_of_get? hd)), hwc.get? hd⟩
      cases hv : Fields.get? right name with
      | none   =>
        rw [hu.get?_of_none hv]
        exact .left_of fun d hd => (hl d hd).left
      | some d =>
        have hr := And.intro (hi.below d (.dependency (Fields.mem_of_get? hv))) (hwi.get? hv)
        refine (hu.get?_of_get? hsr hv).implied (fun d hd => (hl d hd).left) hr.left ?_
        exact fun existing he combined hc => hm.mergeDependency? (hl existing he) hr hc
    constructor
    case flagFree =>
      refine flagFreeAt_fields (by decide) ?_
      rintro _ name d ⟨⟩ hm
      exact (hd name).fit d (hsm.get? hm)
    case asks =>
      intro j hj hal har
      rw [asks_dependencies] at hal har ⊢
      rintro fields rfl name d hm hk
      exact (hd name).means _ hj (fun d hd => hal fields rfl name d (Fields.mem_of_get? hd) hk)
        (fun d hd => har fields rfl name d (Fields.mem_of_get? hd) hk) d (hsm.get? hm)

theorem applying_subset : applying ⊆ readKeywords := by
  simp [applying, readKeywords]

theorem flagKeywords_subset : flagKeywords ⊆ readKeywords := by
  simp [flagKeywords, readKeywords]

def bounds : List String :=
  ["maximum", "exclusiveMaximum", "minimum", "exclusiveMinimum"] ++ upperLimits ++ lowerLimits

theorem eases_bound {earlier later : Option Json} (hk : keyword ∈ bounds)
    (hc : FlagFreeAt keyword current) (hi : FlagFreeAt keyword incoming) :
    (mergeValues merge earlier later keyword current incoming).Ensures
      (Eases keyword current incoming) := by
  have hr : ∀ keyword ∈ bounds, Rule.ofKeyword keyword = .upperBound ∨
      Rule.ofKeyword keyword = .lowerBound := by
    decide
  cases hr keyword hk with
  | inl hr => simp only [Merge.mergeValues, hr]; exact eases_mergeBound hc hi
  | inr hr => simp only [Merge.mergeValues, hr]; exact eases_mergeBound hc hi

theorem Weakens.eases_mergeSchema? (hm : Weakens merge)
    (hk : keyword ∈ ["additionalItems", "contains"]) (hc : FlagFreeAt keyword current)
    (hi : FlagFreeAt keyword incoming) (hwc : current.WellFormed) (hwi : incoming.WellFormed) :
    (Outcome.ofOption (Merge.mergeSchema? merge current incoming)).Ensures
      (Eases keyword current incoming) := by
  refine Outcome.ensures_ofOption fun value hv => ?_
  simp only [List.mem_cons, List.not_mem_nil, or_false] at hk
  rcases hk with rfl | rfl
  case inl =>
    have h := hm.mergeSchema? ⟨hc.below _ .otherItems, hwc⟩ ⟨hi.below _ .otherItems, hwi⟩ hv
    refine ⟨flagFreeAt_schema (h.fit value rfl) (by decide), fun j hj _ _ => ?_⟩
    rw [asks_plain hj rfl]
    rintro _ v ⟨⟩
  case inr =>
    have h := hm.mergeSchema? ⟨hc.below _ .contains, hwc⟩ ⟨hi.below _ .contains, hwi⟩ hv
    exact ⟨flagFreeAt_schema (h.fit value rfl) (by decide), fun _ _ _ _ => asks_approximate (by decide)⟩

theorem eases_mergeMultiple :
    (mergeMultiple current incoming).Ensures (Eases "multipleOf" current incoming) := by
  unfold mergeMultiple
  split
  case h_2 => trivial
  case h_1 =>
    refine Outcome.ensures_ofOption fun value hv => ?_
    exact ⟨flagFreeAt_plain (by decide) fun hk => absurd hk (by decide), fun _ _ _ _ =>
      asks_approximate (by decide)⟩

theorem Weakens.mergeValues (hm : Weakens merge) (hp : Preserves merge) {earlier later : Option Json}
    (hread : keyword ∈ readKeywords) (hk : keyword ≠ "properties")
    (ha : keyword ≠ "additionalProperties") (hc : FlagFreeAt keyword current)
    (hi : FlagFreeAt keyword incoming) (hwc : current.WellFormed) (hwi : incoming.WellFormed) :
    (Merge.mergeValues merge earlier later keyword current incoming).Ensures
      (Eases keyword current incoming) := by
  by_cases hb : keyword ∈ bounds
  case pos => exact eases_bound hb hc hi
  case neg =>
    have hrest : ∀ keyword ∈ readKeywords, keyword ∉ bounds → keyword ≠ "properties" →
        keyword ≠ "additionalProperties" →
          keyword ∈ ["type", "enum", "const", "pattern", "format", "required", "uniqueItems",
            "multipleOf", "items", "additionalItems", "contains", "dependencies", "allOf", "anyOf",
            "oneOf", "not"] := by
      decide
    have hk := hrest keyword hread hb hk ha
    simp only [List.mem_cons, List.not_mem_nil, or_false] at hk
    rcases hk with rfl | rfl | rfl | rfl | rfl | rfl | rfl | rfl | rfl | rfl | rfl | rfl | rfl | rfl |
      rfl | rfl
    · exact eases_mergeTypes current incoming
    · exact eases_mergeAlternatives (by decide) hc hwc hwi
    iterate 3 trivial
    · exact eases_mergeNames hc
    · exact eases_mergeFlags current incoming
    · exact eases_mergeMultiple
    · exact hm.mergeItems hc hi hwc hwi
    · exact hm.eases_mergeSchema? (by decide) hc hi hwc hwi
    · exact hm.eases_mergeSchema? (by decide) hc hi hwc hwi
    · exact hm.mergeDependencies hp hc hi hwc hwi
    · exact hm.mergeConjunction hc hi hwc hwi
    · exact eases_mergeAlternatives (by decide) hc hwc hwi
    · exact eases_mergeAlternatives (by decide) hc hwc hwi
    · exact eases_mergeNegation hc hi

end JsonSchema.Merge

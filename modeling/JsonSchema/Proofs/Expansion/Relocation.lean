import JsonSchema.Expansion
import JsonSchema.Proofs.Validator.Agreement

namespace JsonSchema

open Validator

variable {node other item stricter : Fields} {names : List Json} {j : Json} {keyword : String}
  {config : Json}

namespace Validator

variable {v w : Validator} {additional additional' : Option Validator}

def Entails (v w : Validator) : Prop := ∀ j, v.Passes (some j) → w.Passes (some j)

theorem Entails.everyItem (h : Entails v w) (start : Nat) :
    Entails (within (everyItem start) v) (within (everyItem start) w) := by
  simp only [Entails, passes_everyItem_from]
  exact fun j hp items hi part hm => h part (hp items hi part hm)

theorem Entails.all_append (h : Entails v w) (members : List Validator) :
    Entails (all (members ++ [v])) (all (members ++ [w])) := by
  simp only [Entails, passes_all, List.forall_mem_append, List.forall_mem_singleton]
  exact fun j hp => ⟨hp.left, h j hp.right⟩

theorem exists_entails_ofItemsIn? {each u : Validator} (h : Entails v w)
    (hu : ofItemsIn? (some w) config each = some u) :
    ∃ t, ofItemsIn? (some v) config each = some t ∧ Entails t u := by
  cases config with
  | array slots =>
    cases hu
    exact ⟨_, rfl, (h.everyItem slots.length).all_append (ofTuple 0 slots)⟩
  | object | bool => exact ⟨u, hu, fun _ => id⟩
  | _             => cases hu

-- The keywords of a node that change what others beside them say.
def contextKeywords : List String := ["properties", "exclusiveMinimum", "exclusiveMaximum"]

theorem ofKeywordIn?_congr (hc : ∀ key ∈ contextKeywords, Fields.get? node key = Fields.get? other key)
    (ha : keyword = "items" → additional = additional') :
    ofKeywordIn? node additional keyword config = ofKeywordIn? other additional' keyword config := by
  have hp : knownNames node = knownNames other := by
    rw [knownNames, knownNames, hc "properties" (by decide)]
  have hmin : hasFlag node "exclusiveMinimum" = hasFlag other "exclusiveMinimum" := by
    rw [hasFlag, hasFlag, hc "exclusiveMinimum" (by decide)]
  have hmax : hasFlag node "exclusiveMaximum" = hasFlag other "exclusiveMaximum" := by
    rw [hasFlag, hasFlag, hc "exclusiveMaximum" (by decide)]
  simp only [ofKeywordIn?]
  cases hname : Applicator.ofName? keyword with
  | none =>
    simp only [ofPlainIn?]
    split <;> simp only [hmin, hmax]
  | some a =>
    obtain rfl := Applicator.eq_name hname
    cases a
    case additionalProperties => simp only [hp]
    case items                => simp only [ha rfl]
    all_goals rfl

-- A value passes the validator of a keyword in its node, if there is one.
def Upholds (node : Fields) (keyword : String) (config j : Json) : Prop :=
  ∀ v, ofKeywordIn? node (ofAdditionalItems node) keyword config = some v → v.Passes (some j)

theorem passes_object (hs : Fields.Sorted node) :
    Passes (ofSchema (.object node)) (some j) ↔
      ∀ keyword config, Fields.get? node keyword = some config → Upholds node keyword config j := by
  rw [passes_ofSchema]
  constructor
  case mp  => exact fun h k c hg v hv => h k c v (Fields.mem_of_get? hg) hv
  case mpr => exact fun h k c v hm hv => h k c (hs.get? hm) v hv

-- The required names are a demand of their own: no other keyword depends on them.
theorem passes_iff_of_required (hs : Fields.Sorted node) (ho : Fields.Sorted other)
    (hr : Fields.get? node "required" = some (.array names))
    (he : ∀ key, Fields.get? other key = if "required" = key then none else Fields.get? node key) :
    Passes (ofSchema (.object node)) (some j) ↔
      Passes (ofSchema (.object other)) (some j) ∧ HasValues names j := by
  have hsame (keyword : String) (config : Json) :
      Upholds other keyword config j ↔ Upholds node keyword config j := by
    have hc (key : String) (hk : key ∈ contextKeywords) : Fields.get? other key = Fields.get? node key := by
      rw [he, if_neg]
      rintro rfl
      exact absurd hk (by decide)
    have ha : ofAdditionalItems other = ofAdditionalItems node := by
      rw [ofAdditionalItems_eq, ofAdditionalItems_eq, he, if_neg (by decide)]
    rw [Upholds, Upholds, ofKeywordIn?_congr hc fun _ => ha]
  simp only [passes_object hs, passes_object ho, hsame, he]
  constructor
  case mp =>
    refine fun h => ⟨fun k c hg => ?_, passes_requiredNames.mp (h _ _ hr _ rfl)⟩
    split at hg
    case isTrue  => cases hg
    case isFalse => exact h k c hg
  case mpr =>
    intro ⟨h, hn⟩ k c hg
    by_cases hk : "required" = k
    case neg => exact h k c (by rw [if_neg hk, hg])
    case pos =>
      subst hk
      cases hr.symm.trans hg
      rintro _ ⟨⟩
      exact passes_requiredNames.mpr hn

theorem entails_insert_required (hs : Fields.Sorted item) (hn : Fields.get? item "required" = none)
    (names : List Json) :
    Entails (ofSchema (.object (Fields.insert "required" (.array names) item)))
      (ofSchema (.object item)) := by
  intro j hp
  have hr : Fields.get? (Fields.insert "required" (.array names) item) "required" = some (.array names) := by
    rw [Fields.get?_insert, if_pos rfl]
  refine ((passes_iff_of_required hs.insert hs hr fun key => ?_).mp hp).left
  rw [Fields.get?_insert]
  split
  case isTrue hk  => rw [← hk, hn]
  case isFalse    => rfl

theorem entails_of_item (hs : Fields.Sorted node) (hk : keyword = "items" ∨ keyword = "additionalItems")
    (hi : Fields.get? node keyword = some (.object item))
    (he : ∀ key, Fields.get? other key =
      if keyword = key then some (.object stricter) else Fields.get? node key)
    (h : Entails (ofSchema (.object stricter)) (ofSchema (.object item))) :
    Entails (ofSchema (.object other)) (ofSchema (.object node)) := by
  intro j hp
  rw [passes_ofSchema] at hp
  rw [passes_object hs]
  intro k config hg w hw
  have hc (key : String) (hm : key ∈ contextKeywords) : Fields.get? node key = Fields.get? other key := by
    rw [he, if_neg]
    rintro rfl
    rcases hk with rfl | rfl <;> exact absurd hm (by decide)
  have hother (hn : keyword ≠ k) : (k, config) ∈ other :=
    Fields.mem_of_get? (by rw [he, if_neg hn, hg])
  have hmoved : (keyword, Json.object stricter) ∈ other := Fields.mem_of_get? (by rw [he, if_pos rfl])
  by_cases hki : k = "items"
  case neg =>
    by_cases hn : keyword = k
    case neg => exact hp k config w (hother hn) (by rw [← hw, ofKeywordIn?_congr hc (absurd · hki)])
    case pos =>
      -- The schema for additional items asks for nothing by itself.
      subst hn
      obtain rfl := hk.resolve_left hki
      cases hw
  case pos =>
    subst hki
    rcases hk with rfl | rfl
    case inl =>
      cases hi.symm.trans hg
      cases hw
      exact h.everyItem 0 j (hp _ _ _ hmoved rfl)
    case inr =>
      rw [ofAdditionalItems_eq, hi] at hw
      have ⟨v, hv, hvw⟩ := exists_entails_ofItemsIn? h hw
      refine hvw j (hp _ _ _ (hother (by decide)) ?_)
      rw [ofAdditionalItems_eq, he, if_pos rfl]
      exact hv

end Validator

namespace Expansion

-- The required names of a node for arrays move to the node that holds its items.
structure Moves (node moved : Fields) (names : List Json) (keyword : String) (item : Fields) : Prop where
  required : Fields.get? node "required" = some (.array names)
  holder   : keyword = "items" ∨ keyword = "additionalItems"
  held     : Fields.get? node keyword = some (.object item)
  free     : Fields.get? item "required" = none
  fields   : ∀ key, Fields.get? moved key =
    if keyword = key then some (.object (Fields.insert "required" (.array names) item))
    else if "required" = key then none else Fields.get? node key

theorem canRequire_object (h : canRequire names j = true) :
    ∃ item, j = .object item ∧ Fields.get? item "required" = none := by
  have ⟨hr, hp⟩ := Bool.and_eq_true_iff.mp h
  cases j
  case object item => exact ⟨item, rfl, Option.isNone_iff_eq_none.mp hr⟩
  all_goals cases hp

theorem relocateRequired_cases (node : Fields) :
    relocateRequired node = node ∨
      ∃ names keyword item, Moves node (relocateRequired node) names keyword item := by
  unfold relocateRequired
  split
  case h_2 => exact .inl rfl
  case h_1 names hr =>
    split
    case isFalse => exact .inl rfl
    case isTrue =>
      dsimp only
      split
      case h_2 => exact .inl rfl
      case h_1 keyword hf =>
        have hk : keyword = "items" ∨ keyword = "additionalItems" := by
          simpa using List.mem_of_find?_eq_some hf
        have hc := List.find?_some hf
        split at hc
        case h_2 => cases hc
        case h_1 j hj =>
          obtain ⟨item, rfl, hn⟩ := canRequire_object hc
          refine .inr ⟨names, keyword, item, hr, hk, hj, hn, fun key => ?_⟩
          have hne : "required" ≠ keyword := by
            rintro rfl
            exact absurd hk (by decide)
          rw [Fields.get?_modify, Fields.get?_erase]
          split
          case isFalse   => rfl
          case isTrue he => rw [← he, if_neg hne, hj, Option.map_some]

variable (hw : (Json.object node).WellFormed)

include hw

-- A value that is accepted after the move passes all that is asked of it before, but for the names.
theorem passes_iff_of_relocateRequired
    (h : Passes (ofSchema (.object (relocateRequired node))) (some j)) :
    Passes (ofSchema (.object node)) (some j) ↔
      ∀ names, Fields.get? node "required" = some (.array names) → HasValues names j := by
  have hs := (Json.wellFormed_object.mp hw).left
  have he : Fields.Sorted (Fields.erase "required" node) := hs.filter _
  have ho := Fields.get?_erase "required" node
  constructor
  case mp => exact fun hp names hr => ((passes_iff_of_required hs he hr ho).mp hp).right
  case mpr =>
    intro hn
    rcases relocateRequired_cases node with hsame | ⟨names, keyword, item, hm⟩
    case inl => exact hsame ▸ h
    case inr =>
      have hne : "required" ≠ keyword := by
        rintro rfl
        exact absurd hm.holder (by decide)
      have hi : Fields.get? (Fields.erase "required" node) keyword = some (.object item) := by
        rw [ho, if_neg hne, hm.held]
      have hstrict := entails_insert_required (Json.wellFormed_object.mp (hw.get? hm.held)).left hm.free names
      have hp := entails_of_item he hm.holder hi (fun key => by rw [hm.fields, ho]) hstrict j h
      exact (passes_iff_of_required hs he hm.required ho).mpr ⟨hp, hn names hm.required⟩

theorem isValid_relocateRequired_iff
    (h : (ofSchema (.object (relocateRequired node))).isValid j = true) :
    (ofSchema (.object node)).isValid j = true ↔
      ∀ names, Fields.get? node "required" = some (.array names) → HasValues names j := by
  rw [isValid_iff] at h ⊢
  exact passes_iff_of_relocateRequired hw h

omit hw in
-- The names of a row are asked of each of its items. The row itself is no object.
theorem isValid_relocateRequired_row :
    let node : Fields :=
      [("items", .object [("properties", .object [("x", .object [])])]),
        ("required", .array [.string "x"]), ("type", .string "array")]
    let row := Json.array [.object [("x", .ofNat 1)]]
    (Json.object node).WellFormed ∧ (relocateRequired node == node) = false ∧
      (ofSchema (.object (relocateRequired node))).isValid row = true ∧
      ((ofSchema (.object node)).isValid row = true ↔
        ∀ names, Fields.get? node "required" = some (.array names) → HasValues names row) := by
  intro node row
  have hw : (Json.object node).WellFormed := by decide
  have h : (ofSchema (.object (relocateRequired node))).isValid row = true := by decide +kernel
  exact ⟨hw, by decide, h, isValid_relocateRequired_iff hw h⟩

omit hw in
-- An object may be meant as well as an array.
theorem not_isValid_relocateRequired_object :
    let node : Fields :=
      [("items", .object [("properties", .object [("x", .object [])])]),
        ("required", .array [.string "x"]), ("type", .array [.string "array", .string "object"])]
    let j := Json.object [("y", .ofNat 1)]
    Fields.contains node "$ref" = false ∧ Fields.contains node "allOf" = false ∧
      Json.isEmpty (some j) = false ∧ (ofSchema (.object (relocateRequired node))).isValid j = true ∧
      (ofSchema (.object node)).isValid j = false := by
  decide +kernel

-- The types of a node are given by names, of which none is that of objects.
def ExcludesObjects (node : Fields) : Prop :=
  ∃ types, Fields.get? node "type" = some types ∧
    Rule.ofKeyword? "type" types = some (.type types) ∧ "object" ∉ Rule.typeNames types

omit hw in
theorem get?_type_relocateRequired :
    Fields.get? (relocateRequired node) "type" = Fields.get? node "type" := by
  rcases relocateRequired_cases node with he | ⟨names, keyword, item, hm⟩
  case inl => rw [he]
  case inr =>
    rw [hm.fields, if_neg, if_neg (by decide)]
    rintro rfl
    exact absurd hm.holder (by decide)

omit hw in
theorem ExcludesObjects.not_passes {fields : Fields} (h : ExcludesObjects node) (hn : fields ≠ []) :
    ¬ Passes (ofSchema (.object node)) (some (.object fields)) := by
  obtain ⟨types, ht, hr, ho⟩ := h
  intro hp
  have hp := passes_ofSchema.mp hp "type" types (rule (.type types)) (Fields.mem_of_get? ht)
    (congrArg (Option.map rule) hr)
  rw [passes_rule (by simpa [Json.isEmpty] using hn)] at hp
  obtain ⟨name, hm, he⟩ := List.any_eq_true.mp hp
  obtain rfl : name = "object" := of_decide_eq_true he
  exact ho hm

theorem isValid_of_relocateRequired (hx : ExcludesObjects node) (hj : Json.isEmpty (some j) = false)
    (h : (ofSchema (.object (relocateRequired node))).isValid j = true) :
    (ofSchema (.object node)).isValid j = true := by
  rw [isValid_iff] at h ⊢
  refine (passes_iff_of_relocateRequired hw h).mpr fun names _ => ?_
  rintro fields rfl
  have hm : ExcludesObjects (relocateRequired node) := by
    rwa [ExcludesObjects, get?_type_relocateRequired]
  exact absurd h (hm.not_passes (by simpa [Json.isEmpty] using hj))

end Expansion

end JsonSchema

import JsonSchema.Proofs.Validator.Acceptance
import JsonSchema.Proofs.Validator.Satisfaction
import Mathlib.Data.List.Basic

namespace JsonSchema.Validator

variable {node : Fields} {keyword : String} {config : Json} {additionalItems : Option Validator}

theorem active_all_toList (own : Option Validator) : active [all own.toList] = active own.toList := by
  cases own with
  | none   => rfl
  | some v => cases v <;> rfl

def combining : List String := ["allOf", "anyOf", "oneOf", "not"]

theorem ofKeywordIn?_of_combining (hk : keyword ∈ combining) (node other : Fields)
    (additionalItems others : Option Validator) :
    ofKeywordIn? node additionalItems keyword config = ofKeywordIn? other others keyword config := by
  simp only [combining, List.mem_cons, List.not_mem_nil, or_false] at hk
  rcases hk with rfl | rfl | rfl | rfl <;> rfl

theorem ofKeyword?_of_combining (hk : keyword ∈ combining) :
    ofKeyword? keyword config = some (ofSchema (.object [(keyword, config)])) := by
  simp only [combining, List.mem_cons, List.not_mem_nil, or_false] at hk
  rcases hk with rfl | rfl | rfl | rfl <;> rfl

-- A combination may as well be the only keyword of a schema: what is left of the members that accept
-- everything does not depend on the level on which these are left out.
theorem active_ofKeyword?_of_combining (hk : keyword ∈ combining) :
    active (ofKeyword? keyword config).toList =
      active (ofKeywordIn? node additionalItems keyword config).toList := by
  have hs : ofSchema (.object [(keyword, config)]) =
      all (ofKeywordIn? node additionalItems keyword config).toList := by
    rw [ofSchema, ofKeywords_eq_flatMap, List.flatMap_singleton,
      ofKeywordIn?_of_combining hk [(keyword, config)] node]
  rw [ofKeyword?_of_combining hk, hs]
  exact active_all_toList _

-- No keyword of a node reads another one or says something about the parts of a value.
structure Standalone (node : Fields) : Prop where
  required             : ∀ names, ("required", .array names) ∉ node
  properties           : ∀ schemas, ("properties", .object schemas) ∉ node
  additionalProperties : ∀ config, ("additionalProperties", config) ∉ node
  items                : ∀ config, ("items", config) ∉ node
  exclusiveMinimum     : ∀ flag, ("exclusiveMinimum", .bool flag) ∉ node
  exclusiveMaximum     : ∀ flag, ("exclusiveMaximum", .bool flag) ∉ node

theorem hasFlag_eq_false (h : ∀ flag, (keyword, .bool flag) ∉ node) : hasFlag node keyword = false := by
  unfold hasFlag
  cases hg : Fields.get? node keyword with
  | none        => rfl
  | some config =>
    cases config
    case bool flag => exact absurd (Fields.mem_of_get? hg) (h flag)
    all_goals rfl

namespace Standalone

variable (hn : Standalone node) (hm : (keyword, config) ∈ node)

include hn hm

theorem ofPlainIn?_eq : ofPlainIn? node keyword config = ofPlain? keyword config := by
  unfold ofPlainIn?
  split
  case h_1 flag  => exact absurd hm (hn.exclusiveMinimum flag)
  case h_2 flag  => exact absurd hm (hn.exclusiveMaximum flag)
  case h_3 limit => rw [hasFlag_eq_false hn.exclusiveMinimum]; rfl
  case h_4 limit => rw [hasFlag_eq_false hn.exclusiveMaximum]; rfl
  case h_5 names => exact absurd hm (hn.required names)
  case h_6       => rfl

theorem active_ofKeyword? :
    active (ofKeyword? keyword config).toList =
      active (ofKeywordIn? node additionalItems keyword config).toList := by
  cases ha : Applicator.ofName? keyword with
  | none => simp only [ofKeyword?, ofKeywordIn?, ha, hn.ofPlainIn?_eq hm]
  | some a =>
    obtain rfl := Applicator.eq_name ha
    cases a
    case properties =>
      have hp : ofPropertiesIn? config = none := by
        cases config
        case object schemas => exact absurd hm (hn.properties schemas)
        all_goals rfl
      simp only [ofKeyword?, ofKeywordIn?, ha, hp]
    case additionalProperties => exact absurd hm (hn.additionalProperties config)
    case items                => exact absurd hm (hn.items config)
    case contains             => rfl
    case dependencies         => rfl
    all_goals exact active_ofKeyword?_of_combining (by decide)

end Standalone

theorem ofKeywordsApart_eq_ofSchema (hn : Standalone node) :
    ofKeywordsApart node = ofSchema (.object node) := by
  have h : active (node.filterMap fun field => ofKeyword? field.1 field.2) =
      active (ofKeywords node (ofAdditionalItems node) node) := by
    rw [List.filterMap_eq_flatMap_toList, ofKeywords_eq_flatMap, active, active, List.filter_flatMap,
      List.filter_flatMap]
    exact List.flatMap_congr fun _ hm => hn.active_ofKeyword? hm
  rw [ofKeywordsApart, ofSchema, all, all, h]

-- The validators of the keywords of a schema, each made on its own, say the same together as the validator
-- of the schema does, about every value and in the same words.
theorem check_ofKeywordsApart (hn : Standalone node) :
    (ofKeywordsApart node).isNull = (ofSchema (.object node)).isNull ∧
      ∀ invert value,
        (ofKeywordsApart node).check invert value = (ofSchema (.object node)).check invert value := by
  rw [ofKeywordsApart_eq_ofSchema hn]
  exact ⟨rfl, fun _ _ => rfl⟩

def contact : Fields :=
  [("anyOf", .array
      [.object [("required", .array [.string "phone"])], .object [("minProperties", .ofNat 2)]]),
   ("maxProperties", .ofNat 3),
   ("not", .object [("properties", .object [("phone", .object [("type", .string "boolean")])])])]

theorem check_ofKeywordsApart_contact :
    Standalone contact ∧ (ofKeywordsApart contact).isNull = (ofSchema (.object contact)).isNull ∧
      ∀ invert value,
        (ofKeywordsApart contact).check invert value = (ofSchema (.object contact)).check invert value := by
  have hn : Standalone contact := by
    constructor <;> simp [contact]
  exact ⟨hn, check_ofKeywordsApart hn⟩

end JsonSchema.Validator

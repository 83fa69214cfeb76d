import JsonSchema.Proofs.Merge.Core

namespace JsonSchema

-- No part of a document is null or an empty text, array or object.
inductive Json.Full : Json → Prop
  | bool (b : Bool)     : Full (.bool b)
  | number (n : Number) : Full (.number n)
  | string {s}          : s ≠ "" → Full (.string s)
  | array {items}       : items ≠ [] → (∀ j ∈ items, Full j) → Full (.array items)
  | object {fields} :
    fields ≠ [] → (∀ key j, (key, j) ∈ fields → Full j) → Full (.object fields)

structure Json.Instance (j : Json) : Prop where
  full       : j.Full
  wellFormed : j.WellFormed

namespace Json

variable {j : Json}

theorem Full.isEmpty (h : j.Full) : Json.isEmpty (some j) = false := by
  cases h <;> simp_all [Json.isEmpty]

theorem Full.hasValue (h : j.Full) : Json.hasValue (some j) = true := by
  cases h <;> simp_all [Json.hasValue]

theorem Instance.item {items : List Json} {i : Json} (h : (array items).Instance) (hi : i ∈ items) :
    i.Instance := by
  obtain ⟨hf, hw⟩ := h
  cases hf
  case array _ hf => exact ⟨hf i hi, wellFormed_array.mp hw i hi⟩

theorem Instance.field {fields : Fields} {key : String} {i : Json} (h : (object fields).Instance)
    (hi : (key, i) ∈ fields) : i.Instance := by
  obtain ⟨hf, hw⟩ := h
  cases hf
  case object _ hf => exact ⟨hf key i hi, (wellFormed_object.mp hw).right key i hi⟩

end Json

namespace Merge

open Validator

-- The validator of a schema passes a value.
def Accepts (s j : Json) : Prop := (ofSchema s).Passes (some j)

-- The validator of a keyword, apart from a node, passes a value.
def Demands (keyword : String) (value j : Json) : Prop :=
  ∀ v, ofKeywordIn? [] none keyword value = some v → v.Passes (some j)

def HasProperty (j : Json) (name : String) (part : Json) : Prop :=
  ∃ fields, j = .object fields ∧ (name, part) ∈ fields

def listed (node : Fields) : Fields :=
  ((Fields.get? node "properties").bind Json.asObject?).getD []

def governing? (node : Fields) (name : String) : Option Json :=
  (Fields.get? (listed node) name).or (Fields.get? node "additionalProperties")

-- Every property satisfies the schema for it.
def Governs (node : Fields) (j : Json) : Prop :=
  ∀ name part, HasProperty j name part → ∀ s ∈ governing? node name, Accepts s part

variable {j : Json}

theorem accepts_bool (hj : j.Instance) (b : Bool) : Accepts (.bool b) j ↔ b = true := by
  cases b
  case true  => simp [Accepts, ofSchema, passes_accept]
  case false => simp [Accepts, ofSchema, passes_falseSchema hj.full.isEmpty]

theorem HasProperty.instance {name : String} {part : Json} (h : HasProperty j name part)
    (hj : j.Instance) : part.Instance := by
  obtain ⟨fields, rfl, hm⟩ := h
  exact hj.field hm

theorem knownNames_eq (node : Fields) : knownNames node = Fields.keys (listed node) := by
  unfold knownNames listed
  cases (Fields.get? node "properties").bind Json.asObject? <;> rfl

theorem mem_listed {node : Fields} {name : String} {s : Json}
    (h : Fields.get? (listed node) name = some s) :
    ∃ schemas, Fields.get? node "properties" = some (.object schemas) ∧ (name, s) ∈ schemas := by
  unfold listed at h
  cases hp : Fields.get? node "properties" with
  | none => simp [hp, Fields.get?] at h
  | some value =>
    cases value <;> simp [hp, Json.asObject?, Fields.get?] at h
    case object schemas => exact ⟨schemas, rfl, Fields.mem_of_get? h⟩

theorem governing?_of_some {node schemas : Fields}
    (h : Fields.get? node "properties" = some (.object schemas)) (name : String) :
    governing? node name =
      (Fields.get? schemas name).or (Fields.get? node "additionalProperties") := by
  simp [governing?, listed, h, Json.asObject?]

theorem governing?_of_mem {node schemas : Fields} {name : String} {s : Json}
    (hw : (Json.object node).WellFormed) (hp : Fields.get? node "properties" = some (.object schemas))
    (hs : (name, s) ∈ schemas) : governing? node name = some s := by
  have hs := (Json.wellFormed_object.mp (hw.get? hp)).left.get? hs
  simp [governing?, listed, hp, Json.asObject?, hs]

theorem governing?_cases {node : Fields} {name : String} {s : Json}
    (h : governing? node name = some s) :
    (∃ schemas, Fields.get? node "properties" = some (.object schemas) ∧ (name, s) ∈ schemas) ∨
      Fields.get? node "additionalProperties" = some s := by
  cases hl : Fields.get? (listed node) name with
  | some found =>
    obtain rfl : found = s := by simpa [governing?, hl] using h
    exact .inl (mem_listed hl)
  | none => exact .inr (by simpa [governing?, hl] using h)

theorem governing?_keyword {P : Json → Prop} {node : Fields} {name : String} {s : Json}
    (hk : ∀ keyword value, (keyword, value) ∈ node → CoreKeyword P keyword value)
    (h : governing? node name = some s) : P s := by
  cases governing?_cases h with
  | inl h =>
    obtain ⟨schemas, hp, hm⟩ := h
    obtain ⟨_, he, hs⟩ := (hk _ _ (Fields.mem_of_get? hp)).forms.properties rfl
    cases he
    exact hs name s hm
  | inr h => exact (hk _ _ (Fields.mem_of_get? h)).forms.additionalProperties rfl

theorem wellFormed_governing {node : Fields} {name : String} {s : Json}
    (hw : (Json.object node).WellFormed) (h : governing? node name = some s) : s.WellFormed := by
  cases governing?_cases h with
  | inl h =>
    obtain ⟨schemas, hp, hm⟩ := h
    exact (Json.wellFormed_object.mp (hw.get? hp)).right name s hm
  | inr h => exact hw.get? h

theorem CoreKeyword.ofKeywordIn?_eq {P : Json → Prop} {keyword : String} {value : Json}
    (h : CoreKeyword P keyword value) (hk : keyword ≠ "additionalProperties") (node : Fields)
    (additionalItems : Option Validator) :
    ofKeywordIn? node additionalItems keyword value = ofKeywordIn? [] none keyword value := by
  cases h
  case additionalProperties => exact absurd rfl hk
  case limit hl             => rw [ofKeywordIn?_limit _ _ hl, ofKeywordIn?_limit _ _ hl]
  case unread ha        => rw [ofKeywordIn?_of_not_mem ha, ofKeywordIn?_of_not_mem ha]
  all_goals rfl

-- A property is governed by its own schema among the `properties`, else by that of `additionalProperties`.
theorem accepts_object {node : Fields} (hc : Core (.object node))
    (hw : (Json.object node).WellFormed) (hj : j.Instance) :
    Accepts (.object node) j ↔
      (∀ keyword, keyword ≠ "properties" → keyword ≠ "additionalProperties" →
        ∀ value ∈ Fields.get? node keyword, Demands keyword value j) ∧ Governs node j := by
  have ⟨hs, _⟩ := Json.wellFormed_object.mp hw
  rw [Accepts, passes_ofSchema]
  constructor
  case mp =>
    intro h
    constructor
    case left =>
      intro keyword _ hk value hv v hd
      have hm := Fields.mem_of_get? hv
      exact h keyword value v hm ((hc.keyword hm).ofKeywordIn?_eq hk node _ ▸ hd)
    case right =>
      rintro name part ⟨fields, rfl, hp⟩ s hg
      have hp := (Json.wellFormed_object.mp hj.wellFormed).left.get? hp
      cases hl : Fields.get? (listed node) name
      case some found =>
        obtain rfl : found = s := by simpa [governing?, hl] using hg
        obtain ⟨schemas, hps, hm⟩ := mem_listed hl
        have h := h _ _ _ (Fields.mem_of_get? hps) (ofKeywordIn?_properties ..)
        have h := passes_all.mp h _ (mem_ofProperties.mpr ⟨name, found, hm, rfl⟩)
        have h := passes_atProperty.mp h fields rfl
        rwa [hp] at h
      case none =>
        have hg : Fields.get? node "additionalProperties" = some s := by
          simpa [governing?, hl] using hg
        have h := h _ _ _ (Fields.mem_of_get? hg) (ofKeywordIn?_additionalProperties ..)
        refine passes_otherProperties.mp h fields rfl name part (Fields.mem_of_get? hp) ?_
        rw [knownNames_eq]
        exact Fields.get?_eq_none_iff.mp hl
  case mpr =>
    intro ⟨hd, hg⟩ keyword value v hm hv
    have hget := hs.get? hm
    by_cases hp : keyword = "properties"
    case pos =>
      subst hp
      obtain ⟨schemas, rfl, hps⟩ := (hc.keyword hm).forms.properties rfl
      cases hv
      refine passes_all.mpr fun v hv => ?_
      obtain ⟨name, s, hs, rfl⟩ := mem_ofProperties.mp hv
      refine passes_atProperty.mpr ?_
      rintro fields rfl
      cases hpart : Fields.get? fields name
      case none => exact (hps name s hs).silentOn false
      case some part =>
        have hp : HasProperty (.object fields) name part := ⟨fields, rfl, Fields.mem_of_get? hpart⟩
        exact hg name part hp s (governing?_of_mem hw hget hs)
    case neg =>
      by_cases ha : keyword = "additionalProperties"
      case pos =>
        subst ha
        cases hv
        refine passes_otherProperties.mpr ?_
        rintro fields rfl name part hpart hn
        rw [knownNames_eq] at hn
        have hl := Fields.get?_eq_none_iff.mpr hn
        exact hg name part ⟨fields, rfl, hpart⟩ value (by simp [governing?, hl, hget])
      case neg =>
        rw [(hc.keyword hm).ofKeywordIn?_eq ha] at hv
        exact hd keyword hp ha value hget v hv

theorem demands_eq_some {keyword : String} {value : Json} {v : Validator}
    (h : ofKeywordIn? [] none keyword value = some v) :
    Demands keyword value j ↔ v.Passes (some j) := by
  simp [Demands, h]

theorem demands_of_not_mem {keyword : String} (h : keyword ∉ readKeywords) (value : Json) :
    Demands keyword value j := by
  simp [Demands, ofKeywordIn?_of_not_mem h]

theorem demands_allOf {members : List Json} :
    Demands "allOf" (.array members) j ↔ ∀ s ∈ members, Accepts s j := by
  rw [demands_eq_some (ofKeywordIn?_allOf ..), passes_all]
  simp [Accepts]

theorem demands_not (hj : j.Instance) {s : Json} : Demands "not" s j ↔ ¬ Accepts s j := by
  rw [demands_eq_some (ofKeywordIn?_not ..)]
  exact passes_negation (definite_ofSchema s) hj.full.isEmpty

theorem demands_items {fields : Fields} :
    Demands "items" (.object fields) j ↔
      ∀ items, j = .array items → ∀ i ∈ items, Accepts (.object fields) i := by
  rw [demands_eq_some (ofKeywordIn?_items ..)]
  exact passes_everyItem

theorem demands_required {names : List Json} :
    Demands "required" (.array names) j ↔ HasValues names j := by
  rw [demands_eq_some (ofKeywordIn?_required ..)]
  exact passes_requiredNames

theorem demands_enum (hj : j.Instance) {values : List Json} :
    Demands "enum" (.array values) j ↔ (Rule.enum values).holds j = true := by
  rw [demands_eq_some (ofKeywordIn?_enum ..)]
  exact passes_rule hj.full.isEmpty

theorem demands_const (hj : j.Instance) {value : Json} :
    Demands "const" value j ↔ Json.similar value j = true := by
  rw [demands_eq_some (ofKeywordIn?_const ..)]
  exact passes_rule hj.full.isEmpty

theorem demands_uniqueItems (hj : j.Instance) {b : Bool} :
    Demands "uniqueItems" (.bool b) j ↔ (b = true → Rule.uniqueItems.holds j = true) := by
  rw [demands_eq_some (ofKeywordIn?_uniqueItems ..)]
  cases b
  case true  => simp [uniqueItemsIf, passes_rule hj.full.isEmpty]
  case false => simp [uniqueItemsIf, passes_accept]

theorem demands_limit (hj : j.Instance) {keyword : String} (h : keyword ∈ upperLimits ++ lowerLimits)
    {n : Nat} : Demands keyword (.ofNat n) j ↔ (limitRule keyword n).holds j = true := by
  rw [demands_eq_some (ofKeywordIn?_limit _ _ h _)]
  exact passes_rule hj.full.isEmpty

theorem mapM_asString? (names : List Json) :
    names.mapM Json.asString? =
      if names.all (·.asString?.isSome) then some (names.filterMap Json.asString?) else none := by
  induction names with
  | nil => rfl
  | cons name rest ih =>
    simp only [List.mapM_cons, ih]
    cases h : name.asString? <;> simp [h]
    split <;> simp

theorem typeNames_eq_of_typeNames? {value : Json} {names : List String}
    (h : typeNames? value = some names) : Rule.typeNames value = names := by
  cases value <;> simp [typeNames?, Rule.typeNames] at h ⊢
  case string => exact h
  case array =>
    rw [mapM_asString?] at h
    split at h <;> simp_all

theorem ofKeyword?_type (value : Json) :
    Rule.ofKeyword? "type" value = (typeNames? value).map fun _ => .type value := by
  cases value <;> simp [typeNames?, JsonSchema.Rule.ofKeyword?]
  case array names =>
    rw [mapM_asString?]
    split <;> simp_all

theorem demands_type (hj : j.Instance) {value : Json} :
    Demands "type" value j ↔
      ∀ names, typeNames? value = some names → ∃ name ∈ names, j.isOfType name = true := by
  cases h : typeNames? value with
  | none => simp [Demands, ofKeywordIn?_type, ofKeyword?_type, h]
  | some names =>
    have hr : ofKeywordIn? [] none "type" value = some (.rule (.type value)) := by
      simp [ofKeywordIn?_type, ofKeyword?_type, h]
    rw [demands_eq_some hr, passes_rule hj.full.isEmpty]
    simp [JsonSchema.Rule.holds, typeNames_eq_of_typeNames? h]

def Requires (j : Json) : Json → Prop
  | .array names   => HasValues names j
  | .object fields => Accepts (.object fields) j
  | .bool b        => Accepts (.bool b) j
  | _              => True

theorem meets_names {names : List Json} {fields : Fields} :
    Meets fields (.names (names.filterMap Json.asString?)) ↔ HasValues names (.object fields) := by
  simp only [Meets, HasValues, List.mem_filterMap, Json.object.injEq]
  constructor
  case mp =>
    rintro h _ rfl name hn
    exact h name ⟨_, hn, rfl⟩
  case mpr =>
    rintro h name ⟨i, hi, hn⟩
    cases i <;> simp [Json.asString?] at hn
    exact h fields rfl name (hn ▸ hi)

def dependencyOf? : Json → Option (Dependency Validator)
  | .array names   => some (.names (names.filterMap Json.asString?))
  | .object fields => some (.schema (ofSchema (.object fields)))
  | .bool b        => some (.schema (ofSchema (.bool b)))
  | _              => none

theorem mem_ofDependencies {rules : Fields} {name : String} {m : Dependency Validator} :
    (name, m) ∈ ofDependencies rules ↔ ∃ d, (name, d) ∈ rules ∧ dependencyOf? d = some m := by
  induction rules with
  | nil => simp [ofDependencies]
  | cons rule rest ih =>
    obtain ⟨k, d⟩ := rule
    have hc : (name, m) ∈ ofDependencies ((k, d) :: rest) ↔
        (name = k ∧ dependencyOf? d = some m) ∨ (name, m) ∈ ofDependencies rest := by
      cases d <;> simp [ofDependencies, dependencyOf?, eq_comm]
    rw [hc, ih]
    constructor
    case mp =>
      intro h
      cases h
      case inl h => exact ⟨d, by simp [h.left], h.right⟩
      case inr h =>
        obtain ⟨d, hd, h⟩ := h
        exact ⟨d, List.mem_cons_of_mem _ hd, h⟩
    case mpr =>
      rintro ⟨c, hc, h⟩
      cases List.mem_cons.mp hc
      case inl hc => cases hc; exact .inl ⟨rfl, h⟩
      case inr hc => exact .inr ⟨c, hc, h⟩

theorem requires_iff {d : Json} {fields : Fields} :
    Requires (.object fields) d ↔ ∀ m, dependencyOf? d = some m → Meets fields m := by
  cases d <;> simp [Requires, dependencyOf?]
  case array  => exact meets_names.symm
  case object => rfl
  case bool   => rfl

theorem meets_ofDependencies {rules fields : Fields} :
    (∀ name m, (name, m) ∈ ofDependencies rules →
      Json.hasValue (Fields.get? fields name) = true → Meets fields m) ↔
    ∀ name d, (name, d) ∈ rules → Json.hasValue (Fields.get? fields name) = true →
      Requires (.object fields) d := by
  simp only [mem_ofDependencies, requires_iff]
  constructor
  case mp => exact fun h name d hd hv m hm => h name m ⟨d, hd, hm⟩ hv
  case mpr =>
    rintro h name m ⟨d, hd, hm⟩ hv
    exact h name d hd hv m hm

theorem demands_dependencies {rules : Fields} :
    Demands "dependencies" (.object rules) j ↔
      ∀ fields, j = .object fields → ∀ name d, (name, d) ∈ rules →
        Json.hasValue (Fields.get? fields name) = true → Requires j d := by
  rw [demands_eq_some (ofKeywordIn?_dependencies ..), passes_dependent]
  constructor
  case mp =>
    rintro h fields rfl
    exact meets_ofDependencies.mp (h fields rfl)
  case mpr =>
    rintro h fields rfl
    exact meets_ofDependencies.mpr (h fields rfl)

theorem accepts_anyOf (hj : j.Instance) {members : List Json} (hn : members ≠ []) :
    Accepts (anyOf members) j ↔ ∃ s ∈ members, Accepts s j := by
  rw [Accepts, ofSchema_anyOf, passes_all]
  simp only [List.mem_singleton, forall_eq]
  rw [passes_any (by simpa using hn) hj.full.isEmpty]
  constructor
  case mp =>
    rintro ⟨v, hv, h⟩
    obtain ⟨s, hs, rfl⟩ := List.mem_map.mp hv
    exact ⟨s, hs, h⟩
  case mpr =>
    rintro ⟨s, hs, h⟩
    exact ⟨_, List.mem_map_of_mem hs, h⟩

theorem accepts_allOf {members : List Json} :
    Accepts (allOf members) j ↔ ∀ s ∈ members, Accepts s j := by
  have h : ofSchema (allOf members) = all [all (members.map ofSchema)] := by
    rw [← ofSchemas_eq_map]
    rfl
  simp [Accepts, h, passes_all]

theorem accepts_required {names : List Json} :
    Accepts (.object [("required", .array names)]) j ↔ HasValues names j := by
  have h : ofSchema (.object [("required", .array names)]) = all [requiredNames names] := rfl
  simp [Accepts, h, passes_all, passes_requiredNames]

end Merge

end JsonSchema

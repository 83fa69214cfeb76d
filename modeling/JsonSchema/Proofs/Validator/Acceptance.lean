import JsonSchema.Proofs.Validator.Inversion

namespace JsonSchema.Validator

attribute [local simp] check

variable {v : Validator} {members : List Validator} {value : Option Json} {j : Json}

-- A value, which may be absent, passes a validator.
def Passes (v : Validator) (value : Option Json) : Prop := v.check false value = none

theorem isValid_iff : v.isValid j = true ↔ v.Passes (some j) := by
  simp [isValid, validate, Passes]

theorem passes_accept : Passes accept value := by
  simp [Passes]

theorem failures_eq_nil_iff (members : List Validator) (invert : Bool) (value : Option Json) :
    failures members invert value = [] ↔ ∀ v ∈ members, v.check invert value = none := by
  induction members with
  | nil           => simp [failures]
  | cons v vs ih => simp [failures, ih]

theorem passes_allOf : Passes (allOf members) value ↔ ∀ v ∈ members, v.Passes value := by
  simp only [Passes, ← failures_eq_nil_iff members false, check]
  cases failures members false value <;> simp [failWith]

theorem passes_active : (∀ v ∈ active members, v.Passes value) ↔ ∀ v ∈ members, v.Passes value := by
  simp only [active, List.mem_filter, and_imp]
  constructor
  case mpr => exact fun h v hv _ => h v hv
  case mp =>
    intro h v hv
    by_cases hn : v.isNull
    case neg => exact h v hv (by simp [hn])
    case pos => cases v <;> simp [isNull] at hn; exact passes_accept

theorem passes_all : Passes (all members) value ↔ ∀ v ∈ members, v.Passes value := by
  rw [← passes_active]
  unfold all
  split
  case h_1 h => simp [h, passes_accept]
  case h_2 h => simp [h]
  case h_3   => exact passes_allOf

theorem anyPasses_iff : anyPasses members value = true ↔ ∃ v ∈ members, v.Passes value := by
  induction members with
  | nil          => simp [anyPasses]
  | cons v vs ih => simp [anyPasses, ih, Passes]

theorem passes_any (hn : members ≠ []) (hj : Json.isEmpty (some j) = false) :
    Passes (any members) (some j) ↔ ∃ v ∈ members, v.Passes (some j) := by
  unfold any
  split
  case isTrue h =>
    simp only [Bool.or_eq_true, List.isEmpty_iff, hn, List.any_eq_true, false_or] at h
    obtain ⟨v, hv, hn⟩ := h
    cases v <;> simp [isNull] at hn
    exact ⟨fun _ => ⟨accept, hv, passes_accept⟩, fun _ => passes_accept⟩
  case isFalse =>
    rw [← anyPasses_iff]
    simp only [Passes, check]
    cases anyPasses members (some j)
    case true  => simp
    case false => simpa [← Option.isNone_iff_eq_none] using failWith_isNone hj

theorem passes_negation (hv : v.Definite) (hj : Json.isEmpty (some j) = false) :
    Passes v.negation (some j) ↔ ¬ v.Passes (some j) := by
  have hr : ¬ Passes reject (some j) := by
    simpa [Passes, ← Option.isNone_iff_eq_none] using matched_isNone hj
  cases hv
  case inl h => simp [h, negation, hr, passes_accept]
  case inr h =>
    unfold negation
    split
    case h_1 => simp [hr, passes_accept]
    case h_2 =>
      have h := h j hj
      simp only [Passes, check, ← Option.isNone_iff_eq_none, Bool.not_false, h]
      cases v.check false (some j) <;> simp

theorem passes_within {step : Validator → Validator} (h : Passes (step accept) value) :
    Passes (within step v) value ↔ Passes (step v) value := by
  unfold within
  split
  case h_1 => simp [h, passes_accept]
  case h_2 => rfl

theorem focus_false {label : String} {check : Bool → Option Failure} :
    focus label value false check = check false := by
  rfl

theorem checkParts_false {label : String} {failures : Bool → List Failure} :
    checkParts label value false failures = none ↔ failures false = [] := by
  simp only [checkParts]
  cases failures false <;> simp [failWith]

theorem passes_atProperty {name : String} :
    Passes (within (atProperty name) v) (some j) ↔
      ∀ fields, j = .object fields → v.Passes (Fields.get? fields name) := by
  have h {v : Validator} : Passes (atProperty name v) (some j) ↔
      ∀ fields, j = .object fields → v.Passes (Fields.get? fields name) := by
    simp only [Passes, check, focus_false, propertyOf?]
    cases j <;> simp [Json.asObject?]
  rw [passes_within (h.mpr fun _ _ => passes_accept), h]

theorem passes_otherProperties {known : List String} :
    Passes (within (otherProperties known) v) (some j) ↔
      ∀ fields, j = .object fields →
        ∀ name part, (name, part) ∈ fields → name ∉ known → v.Passes (some part) := by
  have h {v : Validator} : Passes (otherProperties known v) (some j) ↔
      ∀ fields, j = .object fields →
        ∀ name part, (name, part) ∈ fields → name ∉ known → v.Passes (some part) := by
    simp only [Passes, check, checkParts_false, propertiesBut]
    cases j <;> simp [Json.asObject?]
  rw [passes_within (h.mpr fun _ _ _ _ _ _ => passes_accept), h]

theorem passes_everyItem_from {start : Nat} :
    Passes (within (everyItem start) v) (some j) ↔
      ∀ items, j = .array items → ∀ part ∈ items.drop start, v.Passes (some part) := by
  have h {v : Validator} : Passes (everyItem start v) (some j) ↔
      ∀ items, j = .array items → ∀ part ∈ items.drop start, v.Passes (some part) := by
    simp only [Passes, check, checkParts_false, itemsFrom]
    cases j <;> simp [Json.asArray?]
    case array items =>
      have hm (part : Json) :
          part ∈ items.drop start ↔ ∃ i, (part, i) ∈ items.zipIdx.drop start := by
        simp only [List.mem_iff_getElem?, List.getElem?_drop, List.getElem?_zipIdx,
          Option.map_eq_some_iff, Prod.mk.injEq]
        constructor
        case mp =>
          rintro ⟨i, hi⟩
          exact ⟨_, i, part, hi, rfl, rfl⟩
        case mpr =>
          rintro ⟨_, i, _, hi, rfl, _⟩
          exact ⟨i, hi⟩
      simp only [hm, forall_exists_index]
  rw [passes_within (h.mpr fun _ _ _ _ => passes_accept), h]

theorem passes_everyItem :
    Passes (within (everyItem 0) v) (some j) ↔
      ∀ items, j = .array items → ∀ part ∈ items, v.Passes (some part) := by
  rw [passes_everyItem_from]
  simp only [List.drop_zero]

theorem passes_rule {r : Rule} (hj : Json.isEmpty (some j) = false) :
    Passes (rule r) (some j) ↔ r.holds j = true := by
  simp [Passes, filled?_eq_some hj]

theorem isValid_rule (r : Rule) (hj : Json.isEmpty (some j) = false) : (rule r).isValid j = r.holds j := by
  rw [Bool.eq_iff_iff, isValid_iff, passes_rule hj]

theorem passes_falseSchema (hj : Json.isEmpty (some j) = false) :
    ¬ Passes falseSchema (some j) := by
  simp [Passes, hj]

theorem passes_required : Passes required value ↔ Json.hasValue value = true := by
  simp [Passes]

def HasValues (names : List Json) (j : Json) : Prop :=
  ∀ fields, j = .object fields → ∀ name, .string name ∈ names →
    Json.hasValue (Fields.get? fields name) = true

theorem passes_requiredNames {names : List Json} :
    Passes (requiredNames names) (some j) ↔ HasValues names j := by
  have hs (name : String) : (∃ i ∈ names, i.asString? = some name) ↔ .string name ∈ names := by
    constructor
    case mp =>
      intro ⟨i, hi, hn⟩
      cases i <;> simp [Json.asString?] at hn
      exact hn ▸ hi
    case mpr => exact fun h => ⟨_, h, rfl⟩
  simp only [requiredNames, passes_all, List.mem_map, List.mem_filterMap, hs]
  constructor
  case mp =>
    intro h fields hf name hn
    exact passes_required.mp (passes_atProperty.mp (h _ ⟨name, hn, rfl⟩) fields hf)
  case mpr =>
    rintro h v ⟨name, hn, rfl⟩
    exact passes_atProperty.mpr fun fields hf => passes_required.mpr (h fields hf name hn)

def Meets (fields : Fields) : Dependency Validator → Prop
  | .names names => ∀ name ∈ names, Json.hasValue (Fields.get? fields name) = true
  | .schema v    => v.Passes (some (.object fields))

theorem unmet_eq_nil_iff {rules : List (String × Dependency Validator)} {fields : Fields} :
    unmet rules fields (.object fields) = [] ↔
      ∀ name d, (name, d) ∈ rules → Json.hasValue (Fields.get? fields name) = true →
        Meets fields d := by
  induction rules with
  | nil => simp [unmet]
  | cons rule rest ih =>
    have hc (rule : String × Dependency Validator) :
        (∀ name d, (name, d) ∈ rule :: rest →
          Json.hasValue (Fields.get? fields name) = true → Meets fields d) ↔
        (Json.hasValue (Fields.get? fields rule.1) = true → Meets fields rule.2) ∧
          unmet rest fields (.object fields) = [] := by
      rw [ih]
      constructor
      case mp =>
        exact fun h => ⟨h _ _ List.mem_cons_self, fun n d hd => h n d (List.mem_cons_of_mem _ hd)⟩
      case mpr =>
        intro ⟨hr, h⟩ n d hd
        cases List.mem_cons.mp hd
        case inl hd => cases hd; exact hr
        case inr hd => exact h n d hd
    rw [hc]
    match rule with
    | (name, .names names) =>
      have hm : missingNames fields names = [] ↔ Meets fields (.names names) := by
        simp [missingNames, Meets]
      simp only [unmet, ← hm]
      cases Json.hasValue (Fields.get? fields name)
      case false => simp
      case true => cases missingNames fields names <;> simp
    | (name, .schema v) =>
      simp only [unmet, Meets, Passes]
      cases Json.hasValue (Fields.get? fields name)
      case false => simp
      case true => cases h : v.check false (some (.object fields)) <;> simp

theorem passes_dependent {rules : List (String × Dependency Validator)} :
    Passes (dependent rules) (some j) ↔
      ∀ fields, j = .object fields → ∀ name d, (name, d) ∈ rules →
        Json.hasValue (Fields.get? fields name) = true → Meets fields d := by
  have h : Passes (dependencies rules) (some j) ↔
      ∀ fields, j = .object fields → unmet rules fields (.object fields) = [] := by
    simp only [Passes, check, Json.filled?]
    cases j <;> simp [Json.asObject?, Json.isEmpty]
    case object fields =>
      -- An empty object has none of the properties.
      cases fields
      case cons => simp
      case nil  => exact .inr (unmet_eq_nil_iff.mpr (by simp [Fields.get?, Json.hasValue]))
  unfold dependent
  split
  case isTrue hr => simp [List.isEmpty_iff.mp hr, passes_accept]
  case isFalse => simp only [h, unmet_eq_nil_iff]

def ofKeywordIn? (node : Fields) (additionalItems : Option Validator) (keyword : String)
    (config : Json) : Option Validator :=
  match Applicator.ofName? keyword with
  | some .properties           => ofPropertiesIn? config
  | some .additionalProperties =>
    some (within (otherProperties (knownNames node)) (ofSchema config))
  | some .items                => ofItemsIn? additionalItems config (ofSchema config)
  | some .contains             => some (contains config (ofSchema config))
  | some .dependencies         => ofDependenciesIn? config
  | some .allOf                => (ofMembersIn? config).map all
  | some .anyOf                => (ofMembersIn? config).map any
  | some .oneOf                => (ofMembersIn? config).map one
  | some .not                  => some (negation (ofSchema config))
  | none                       => ofPlainIn? node keyword config

theorem ofKeywords_eq_flatMap (node fields : Fields) (additionalItems : Option Validator) :
    ofKeywords node additionalItems fields =
      fields.flatMap fun field => (ofKeywordIn? node additionalItems field.1 field.2).toList := by
  induction fields with
  | nil                => rfl
  | cons field rest ih => rw [List.flatMap_cons, ← ih]; rfl

theorem mem_ofKeywords {node fields : Fields} {additionalItems : Option Validator} :
    v ∈ ofKeywords node additionalItems fields ↔
      ∃ keyword config, (keyword, config) ∈ fields ∧
        ofKeywordIn? node additionalItems keyword config = some v := by
  simp only [ofKeywords_eq_flatMap, List.mem_flatMap, Option.mem_toList, Prod.exists]

theorem passes_ofSchema {node : Fields} :
    Passes (ofSchema (.object node)) value ↔
      ∀ keyword config v, (keyword, config) ∈ node →
        ofKeywordIn? node (ofAdditionalItems node) keyword config = some v → v.Passes value := by
  simp only [ofSchema, passes_all, mem_ofKeywords]
  constructor
  case mp => exact fun h k c v hm hv => h v ⟨k, c, hm, hv⟩
  case mpr =>
    rintro h v ⟨k, c, hm, hv⟩
    exact h k c v hm hv

theorem mem_ofProperties {schemas : Fields} :
    v ∈ ofProperties schemas ↔
      ∃ name schema, (name, schema) ∈ schemas ∧ v = within (atProperty name) (ofSchema schema) := by
  induction schemas with
  | nil => simp [ofProperties]
  | cons field rest ih =>
    obtain ⟨k, s⟩ := field
    simp only [ofProperties, List.mem_cons, ih, Prod.mk.injEq]
    constructor
    case mp =>
      intro h
      cases h
      case inl h => exact ⟨k, s, .inl ⟨rfl, rfl⟩, h⟩
      case inr h =>
        obtain ⟨k, s, hm, h⟩ := h
        exact ⟨k, s, .inr hm, h⟩
    case mpr =>
      rintro ⟨name, schema, hm, h⟩
      cases hm
      case inl hm => exact .inl (hm.left ▸ hm.right ▸ h)
      case inr hm => exact .inr ⟨name, schema, hm, h⟩

theorem mem_ofTuple {slots : List Json} {index : Nat} :
    v ∈ ofTuple index slots ↔
      ∃ i s, slots[i]? = some s ∧ v = within (atIndex (index + i)) (ofSchema s) := by
  induction slots generalizing index with
  | nil => simp [ofTuple]
  | cons slot rest ih =>
    rw [ofTuple, List.mem_cons, ih]
    constructor
    case mp =>
      intro h
      cases h
      case inl h => exact ⟨0, slot, rfl, h⟩
      case inr h =>
        obtain ⟨i, s, hs, h⟩ := h
        exact ⟨i + 1, s, hs, by rw [h, Nat.add_assoc, Nat.add_comm 1]⟩
    case mpr =>
      rintro ⟨i, s, hs, h⟩
      cases i with
      | zero   => cases hs; exact .inl h
      | succ i => exact .inr ⟨i, s, hs, by rw [h, Nat.add_assoc, Nat.add_comm 1]⟩

theorem ofAdditionalItems_eq (node : Fields) :
    ofAdditionalItems node = (Fields.get? node "additionalItems").map ofSchema := by
  induction node with
  | nil => rfl
  | cons field rest ih =>
    obtain ⟨k, s⟩ := field
    rw [ofAdditionalItems, Fields.get?]
    split
    case isTrue  => rfl
    case isFalse => exact ih

theorem ofSchemas_eq_map (schemas : List Json) : ofSchemas schemas = schemas.map ofSchema := by
  induction schemas with
  | nil               => rfl
  | cons schema rest ih => simp [ofSchemas, ih]

end JsonSchema.Validator

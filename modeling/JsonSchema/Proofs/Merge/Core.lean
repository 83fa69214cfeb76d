import JsonSchema.Merge.Basic
import JsonSchema.Proofs.Binary64.Integer
import JsonSchema.Proofs.Json.Similarity
import JsonSchema.Proofs.Validator.Silence

namespace JsonSchema.Merge

open Validator

-- The keywords of which validators take notice. All others are annotations.
def readKeywords : List String :=
  ["type", "enum", "const", "pattern", "format", "required", "uniqueItems", "multipleOf",
    "minLength", "maxLength", "minItems", "maxItems", "minProperties", "maxProperties",
    "minimum", "maximum", "exclusiveMinimum", "exclusiveMaximum",
    "properties", "additionalProperties", "items", "additionalItems", "contains", "dependencies",
    "allOf", "anyOf", "oneOf", "not"]

def upperLimits : List String := ["maxLength", "maxItems", "maxProperties"]

def lowerLimits : List String := ["minLength", "minItems", "minProperties"]

inductive CoreDependency (P : Json → Prop) : Json → Prop
  | names (names : List Json) : CoreDependency P (.array names)
  | schema {fields}           : P (.object fields) → CoreDependency P (.object fields)

-- What a core keyword is followed by, where `P` holds of the schemas below it. Two negations merge to
-- the negation of alternatives, so this is core, too, while alternatives by themselves are not.
inductive CoreKeyword (P : Json → Prop) : String → Json → Prop
  | type (value : Json)    : CoreKeyword P "type" value
  | const (value : Json)   : CoreKeyword P "const" value
  | pattern (value : Json) : CoreKeyword P "pattern" value
  | format (value : Json)  : CoreKeyword P "format" value
  | enum {values} : (∀ j ∈ values, j.NumberFree) → CoreKeyword P "enum" (.array values)
  | limit {keyword n} :
    keyword ∈ upperLimits ++ lowerLimits → n ≤ Binary64.exactLimit → CoreKeyword P keyword (.ofNat n)
  | required (names : List Json) : CoreKeyword P "required" (.array names)
  | uniqueItems (b : Bool)       : CoreKeyword P "uniqueItems" (.bool b)
  | properties {schemas} :
    (∀ name s, (name, s) ∈ schemas → P s) → CoreKeyword P "properties" (.object schemas)
  | additionalProperties {s} : P s → CoreKeyword P "additionalProperties" s
  | items {fields}           : P (.object fields) → CoreKeyword P "items" (.object fields)
  | dependencies {rules} :
    (∀ name d, (name, d) ∈ rules → CoreDependency P d) → CoreKeyword P "dependencies" (.object rules)
  | allOf {members}  : (∀ s ∈ members, P s) → CoreKeyword P "allOf" (.array members)
  | not {s}          : P s → CoreKeyword P "not" s
  | notAny {members} : members ≠ [] → (∀ s ∈ members, P s) → CoreKeyword P "not" (anyOf members)
  | unread {keyword} (value : Json) : keyword ∉ readKeywords → CoreKeyword P keyword value

inductive Core : Json → Prop
  | bool (b : Bool) : Core (.bool b)
  | object {fields} :
    (∀ keyword value, (keyword, value) ∈ fields → CoreKeyword Core keyword value) →
      Core (.object fields)

theorem Core.keyword {fields : Fields} {keyword : String} {value : Json}
    (h : Core (.object fields)) (hm : (keyword, value) ∈ fields) :
    CoreKeyword Core keyword value := by
  cases h
  case object h => exact h keyword value hm

structure CoreKeyword.Forms (P : Json → Prop) (keyword : String) (value : Json) : Prop where
  enum        : keyword = "enum" → ∃ values, value = .array values ∧ ∀ j ∈ values, j.NumberFree
  required    : keyword = "required" → ∃ names, value = .array names
  uniqueItems : keyword = "uniqueItems" → ∃ b, value = .bool b
  limit       :
    keyword ∈ upperLimits ++ lowerLimits → ∃ n, n ≤ Binary64.exactLimit ∧ value = .ofNat n
  properties  :
    keyword = "properties" → ∃ schemas, value = .object schemas ∧ ∀ name s, (name, s) ∈ schemas → P s
  additionalProperties : keyword = "additionalProperties" → P value
  items       : keyword = "items" → ∃ fields, value = .object fields ∧ P value
  dependencies :
    keyword = "dependencies" →
      ∃ rules, value = .object rules ∧ ∀ name d, (name, d) ∈ rules → CoreDependency P d
  allOf       : keyword = "allOf" → ∃ members, value = .array members ∧ ∀ s ∈ members, P s
  not         :
    keyword = "not" → P value ∨ ∃ members, members ≠ [] ∧ value = anyOf members ∧ ∀ s ∈ members, P s

theorem limit_subset : upperLimits ++ lowerLimits ⊆ readKeywords := by
  simp [upperLimits, lowerLimits, readKeywords]

theorem CoreKeyword.forms {P : Json → Prop} {keyword : String} {value : Json}
    (h : CoreKeyword P keyword value) : Forms P keyword value := by
  cases h
  case limit n hn hk =>
    constructor
    case limit => exact fun _ => ⟨n, hn, rfl⟩
    all_goals rintro rfl; simp [upperLimits, lowerLimits] at hk
  case unread h =>
    constructor
    case limit => intro hk; exact absurd (limit_subset hk) h
    all_goals rintro rfl; simp [readKeywords] at h
  case properties h =>
    constructor
    case properties => exact fun _ => ⟨_, rfl, h⟩
    all_goals simp [upperLimits, lowerLimits]
  case dependencies h =>
    constructor
    case dependencies => exact fun _ => ⟨_, rfl, h⟩
    all_goals simp [upperLimits, lowerLimits]
  case notAny hn h =>
    constructor
    case not => exact fun _ => .inr ⟨_, hn, rfl, h⟩
    all_goals simp [upperLimits, lowerLimits]
  all_goals constructor <;> simp_all [upperLimits, lowerLimits]

theorem CoreKeyword.imp {P Q : Json → Prop} {keyword : String} {value : Json}
    (h : CoreKeyword P keyword value) (hi : ∀ s, sizeOf s ≤ sizeOf value → P s → Q s) :
    CoreKeyword Q keyword value := by
  cases h
  case type               => exact .type value
  case const              => exact .const value
  case pattern            => exact .pattern value
  case format             => exact .format value
  case enum h             => exact .enum h
  case limit hn hk        => exact .limit hk hn
  case required names     => exact .required names
  case uniqueItems b      => exact .uniqueItems b
  case unread h       => exact .unread value h
  case additionalProperties h => exact .additionalProperties (hi _ (Nat.le_refl _) h)
  case items h            => exact .items (hi _ (Nat.le_refl _) h)
  case not h              => exact .not (hi _ (Nat.le_refl _) h)
  case properties h =>
    refine .properties fun name s hs => hi s ?_ (h name s hs)
    have := List.sizeOf_lt_of_mem hs
    simp at this ⊢
    omega
  case dependencies h =>
    refine .dependencies fun name d hd => ?_
    have := List.sizeOf_lt_of_mem hd
    cases h name d hd
    case names names => exact .names names
    case schema hp =>
      refine .schema (hi _ ?_ hp)
      simp at this ⊢
      omega
  case allOf h =>
    refine .allOf fun s hs => hi s ?_ (h s hs)
    have := List.sizeOf_lt_of_mem hs
    simp
    omega
  case notAny hn h =>
    refine .notAny hn fun s hs => hi s ?_ (h s hs)
    have := List.sizeOf_lt_of_mem hs
    simp [anyOf]
    omega

@[elab_as_elim]
theorem Core.induct {motive : Json → Prop}
    (bool : ∀ b, motive (.bool b))
    (object : ∀ fields : Fields,
      (∀ keyword value, (keyword, value) ∈ fields →
        CoreKeyword (fun s => Core s ∧ motive s) keyword value) → motive (.object fields))
    {s : Json} (h : Core s) : motive s :=
  match s, h with
  | .bool b, _ => bool b
  | .object fields, .object h =>
    object fields fun keyword value hm =>
      (h keyword value hm).imp fun _ _ hc => ⟨hc, Core.induct bool object hc⟩
termination_by s
decreasing_by
  have := List.sizeOf_lt_of_mem hm
  simp at this ⊢
  omega

theorem ofKeyword?_of_not_mem {keyword : String} (h : keyword ∉ readKeywords) (value : Json) :
    Rule.ofKeyword? keyword value = none := by
  unfold JsonSchema.Rule.ofKeyword?
  split <;> simp_all [readKeywords]

theorem ofPlainIn?_of_not_mem {keyword : String} (h : keyword ∉ readKeywords) (node : Fields)
    (value : Json) : ofPlainIn? node keyword value = none := by
  have hp : ofPlain? keyword value = none := by
    have hr := ofKeyword?_of_not_mem h value
    unfold ofPlain?
    split <;> simp_all [readKeywords]
  unfold ofPlainIn?
  split <;> simp_all [readKeywords]

theorem ofKeywordIn?_of_not_mem {keyword : String} (h : keyword ∉ readKeywords) (node : Fields)
    (additionalItems : Option Validator) (value : Json) :
    ofKeywordIn? node additionalItems keyword value = none := by
  have hn : Applicator.ofName? keyword = none := by
    unfold Applicator.ofName?
    split <;> simp_all [readKeywords]
  simp only [ofKeywordIn?, hn, ofPlainIn?_of_not_mem h]

section Keywords

variable (node : Fields) (additionalItems : Option Validator)

theorem ofKeywordIn?_type (value : Json) :
    ofKeywordIn? node additionalItems "type" value =
      (JsonSchema.Rule.ofKeyword? "type" value).map .rule :=
  rfl

theorem ofKeywordIn?_const (value : Json) :
    ofKeywordIn? node additionalItems "const" value = some (.rule (.const value)) :=
  rfl

theorem ofKeywordIn?_pattern (value : Json) :
    ofKeywordIn? node additionalItems "pattern" value =
      value.asString?.map (Validator.pattern · false) :=
  rfl

theorem ofKeywordIn?_format (value : Json) :
    ofKeywordIn? node additionalItems "format" value = value.asString?.map Validator.format :=
  rfl

theorem ofKeywordIn?_enum (values : List Json) :
    ofKeywordIn? node additionalItems "enum" (.array values) = some (.rule (.enum values)) :=
  rfl

theorem ofKeywordIn?_required (names : List Json) :
    ofKeywordIn? node additionalItems "required" (.array names) = some (requiredNames names) :=
  rfl

theorem ofKeywordIn?_uniqueItems (b : Bool) :
    ofKeywordIn? node additionalItems "uniqueItems" (.bool b) = some (uniqueItemsIf b) :=
  rfl

theorem ofKeywordIn?_properties (schemas : Fields) :
    ofKeywordIn? node additionalItems "properties" (.object schemas) =
      some (all (ofProperties schemas)) :=
  rfl

theorem ofKeywordIn?_additionalProperties (s : Json) :
    ofKeywordIn? node additionalItems "additionalProperties" s =
      some (within (.otherProperties (knownNames node)) (ofSchema s)) :=
  rfl

theorem ofKeywordIn?_items (fields : Fields) :
    ofKeywordIn? node additionalItems "items" (.object fields) =
      some (within (.everyItem 0) (ofSchema (.object fields))) :=
  rfl

theorem ofKeywordIn?_dependencies (rules : Fields) :
    ofKeywordIn? node additionalItems "dependencies" (.object rules) =
      some (dependent (ofDependencies rules)) :=
  rfl

theorem ofKeywordIn?_allOf (members : List Json) :
    ofKeywordIn? node additionalItems "allOf" (.array members) =
      some (all (members.map ofSchema)) := by
  rw [← ofSchemas_eq_map]
  rfl

theorem ofKeywordIn?_not (s : Json) :
    ofKeywordIn? node additionalItems "not" s = some (ofSchema s).negation :=
  rfl

def limitRule : String → Nat → JsonSchema.Rule
  | "maxLength"     => .maxLength
  | "maxItems"      => .maxItems
  | "maxProperties" => .maxProperties
  | "minLength"     => .minLength
  | "minItems"      => .minItems
  | _               => .minProperties

theorem ofKeywordIn?_limit {keyword : String} (h : keyword ∈ upperLimits ++ lowerLimits) (n : Nat) :
    ofKeywordIn? node additionalItems keyword (.ofNat n) = some (.rule (limitRule keyword n)) := by
  have hn : (Json.ofNat n).asNat? = some n := by
    simp [Json.ofNat, Json.asNat?, Json.asNumber?, Number.toNat?]
  simp only [upperLimits, lowerLimits, List.cons_append, List.nil_append, List.mem_cons,
    List.not_mem_nil, or_false] at h
  rcases h with rfl | rfl | rfl | rfl | rfl | rfl <;>
    simp [ofKeywordIn?, Applicator.ofName?, ofPlainIn?, ofPlain?, JsonSchema.Rule.ofKeyword?, hn,
      limitRule]

end Keywords

theorem ofSchema_anyOf (members : List Json) :
    ofSchema (anyOf members) = all [any (members.map ofSchema)] := by
  rw [← ofSchemas_eq_map]
  rfl

theorem silentOn_ofSchema_anyOf {members : List Json}
    (h : ∀ s ∈ members, SilentOn none (ofSchema s)) : SilentOn none (ofSchema (anyOf members)) := by
  rw [ofSchema_anyOf]
  apply silentOn_all rfl
  intro v hv
  rw [List.mem_singleton.mp hv]
  apply silentOn_any rfl
  intro v hv
  obtain ⟨s, hs, rfl⟩ := List.mem_map.mp hv
  exact h s hs

theorem CoreKeyword.not_mem {P : Json → Prop} {keyword : String} {value : Json}
    (h : CoreKeyword P keyword value) :
    keyword ∉ ["additionalItems", "contains", "anyOf", "oneOf"] := by
  cases h
  case limit _ hk =>
    simp only [upperLimits, lowerLimits, List.cons_append, List.nil_append, List.mem_cons,
      List.not_mem_nil, or_false] at hk
    rcases hk with rfl | rfl | rfl | rfl | rfl | rfl <;> simp
  case unread h =>
    have hr : ["additionalItems", "contains", "anyOf", "oneOf"] ⊆ readKeywords := by
      simp [readKeywords]
    exact fun hm => h (hr hm)
  all_goals simp

theorem CoreKeyword.of_appliedBy {P : Json → Prop} {s : Json} {keyword : String} {value : Json}
    (h : CoreKeyword P keyword value) (hs : s.AppliedBy keyword value) :
    P s ∨ (∃ names, s = .array names) ∨ ∃ members, s = anyOf members ∧ ∀ t ∈ members, P t := by
  cases hs
  case property hm =>
    obtain ⟨_, he, hp⟩ := h.forms.properties rfl
    cases he
    exact .inl (hp _ _ hm)
  case otherProperties => exact .inl (h.forms.additionalProperties rfl)
  case slot =>
    obtain ⟨_, he, _⟩ := h.forms.items rfl
    cases he
  case items =>
    obtain ⟨_, _, hp⟩ := h.forms.items rfl
    exact .inl hp
  case dependency hm =>
    obtain ⟨_, he, hd⟩ := h.forms.dependencies rfl
    cases he
    cases hd _ _ hm
    case names names => exact .inr (.inl ⟨names, rfl⟩)
    case schema hp   => exact .inl hp
  case allOf hm =>
    obtain ⟨_, he, hp⟩ := h.forms.allOf rfl
    cases he
    exact .inl (hp _ hm)
  case not =>
    obtain hp | ⟨members, _, he, hp⟩ := h.forms.not rfl
    case inl => exact .inl hp
    case inr => exact .inr (.inr ⟨members, he, hp⟩)
  case otherItems | contains | anyOf | oneOf => exact absurd h.not_mem (by simp)

theorem CoreKeyword.silentOn {node : Fields} {additionalItems : Option Validator} {keyword : String}
    {value : Json} {v : Validator}
    (h : CoreKeyword (fun s => SilentOn none (ofSchema s)) keyword value)
    (hv : ofKeywordIn? node additionalItems keyword value = some v) : SilentOn none v := by
  refine silentOn_ofKeywordIn? rfl ?_ (fun hn => absurd rfl hn) (fun s hs => ?_)
    (fun hn => absurd rfl hn) hv
  case refine_1 =>
    rintro b rfl rfl
    obtain ⟨_, he⟩ := h.forms.required rfl
    cases he
  case refine_2 =>
    obtain hp | ⟨names, rfl⟩ | ⟨members, rfl, hp⟩ := h.of_appliedBy hs
    case inl     => exact hp
    case inr.inl => exact silentOn_accept
    case inr.inr => exact silentOn_ofSchema_anyOf hp

theorem Core.silentOn {s : Json} (h : Core s) : SilentOn none (ofSchema s) := by
  refine Core.induct ?bool ?object h
  case bool =>
    intro b
    cases b
    case false => exact silentOn_falseSchema rfl
    case true  => exact silentOn_accept
  case object =>
    intro fields ih
    rw [ofSchema]
    apply silentOn_all rfl
    intro v hv
    obtain ⟨keyword, value, hm, hv⟩ := mem_ofKeywords.mp hv
    exact ((ih keyword value hm).imp fun _ _ h => h.right).silentOn hv

end JsonSchema.Merge

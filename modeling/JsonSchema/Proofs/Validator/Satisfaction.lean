import JsonSchema.Proofs.Json.Walk
import JsonSchema.Validator.Schema

namespace JsonSchema

open Validator

inductive Json.AppliedBy (s : Json) : String → Json → Prop
  | property {name schemas} : (name, s) ∈ schemas → AppliedBy s "properties" (.object schemas)
  | otherProperties         : AppliedBy s "additionalProperties" s
  | slot {slots}            : s ∈ slots → AppliedBy s "items" (.array slots)
  | items                   : AppliedBy s "items" s
  | otherItems              : AppliedBy s "additionalItems" s
  | contains                : AppliedBy s "contains" s
  | dependency {name rules} : (name, s) ∈ rules → AppliedBy s "dependencies" (.object rules)
  | allOf {members}         : s ∈ members → AppliedBy s "allOf" (.array members)
  | anyOf {members}         : s ∈ members → AppliedBy s "anyOf" (.array members)
  | oneOf {members}         : s ∈ members → AppliedBy s "oneOf" (.array members)
  | not                     : AppliedBy s "not" s

def Json.Below (s : Json) (node : Fields) : Prop :=
  ∃ keyword config, (keyword, config) ∈ node ∧ s.AppliedBy keyword config

inductive Json.Subschema (s : Json) : Json → Prop
  | self           : Subschema s s
  | inner {t node} : t.Below node → Subschema s t → Subschema s (.object node)

-- Nowhere in a schema is the value of `required` a truth value.
def Json.RequiresNames (schema : Json) : Prop :=
  ∀ node b, (Json.object node).Subschema schema → ("required", .bool b) ∉ node

-- A value passes the validator of a single keyword, if there is one.
def Obeys (keyword : String) (config j : Json) : Prop :=
  ∀ v, ofKeyword? keyword config = some v → v.isValid j = true

def HasNames (names : List Json) (fields : Fields) : Prop :=
  ∀ name, .string name ∈ names → Fields.contains fields name = true

-- A keyword without schemas holds of a value. The flag of an exclusive bound makes the bound strict.
def PlainHolds (node : Fields) (keyword : String) (config j : Json) : Prop :=
  match keyword, config with
  | "minimum", .number _ =>
    Obeys (if hasFlag node "exclusiveMinimum" then "exclusiveMinimum" else "minimum") config j
  | "maximum", .number _ =>
    Obeys (if hasFlag node "exclusiveMaximum" then "exclusiveMaximum" else "maximum") config j
  | "required", .array names => ∀ fields, j = .object fields → HasNames names fields
  | keyword, config => Obeys keyword config j

section Holds

variable (P : Json → Json → Prop)

def DependencyHolds (fields : Fields) : Json → Prop
  | .array names   => HasNames names fields
  | .object schema => P (.object schema) (.object fields)
  | .bool b        => P (.bool b) (.object fields)
  | _              => True

def ExactlyOne (members : List Json) (j : Json) : Prop :=
  ∃ front s back, members = front ++ s :: back ∧ P s j ∧ ∀ t ∈ front ++ back, ¬ P t j

-- A keyword of a node holds of a value. An empty list of alternatives says nothing.
def KeywordHolds (node : Fields) (keyword : String) (config j : Json) : Prop :=
  match Applicator.ofName? keyword, config with
  | none, config => PlainHolds node keyword config j
  | some .properties, .object schemas =>
    ∀ fields, j = .object fields → ∀ name s part, (name, s) ∈ schemas →
      Fields.get? fields name = some part → P s part
  | some .additionalProperties, s =>
    ∀ fields, j = .object fields → ∀ name part, (name, part) ∈ fields →
      name ∉ knownNames node → P s part
  | some .items, .array slots =>
    ∀ items, j = .array items →
      (∀ (i : Nat) s part, slots[i]? = some s → items[i]? = some part → P s part) ∧
      ∀ s, Fields.get? node "additionalItems" = some s → ∀ part ∈ items.drop slots.length, P s part
  | some .items, .object schema =>
    ∀ items, j = .array items → ∀ part ∈ items, P (.object schema) part
  | some .items, .bool b => ∀ items, j = .array items → ∀ part ∈ items, P (.bool b) part
  | some .contains, s => ∀ items, j = .array items → ∃ part ∈ items, P s part
  | some .dependencies, .object rules =>
    ∀ fields, j = .object fields → ∀ name d, (name, d) ∈ rules →
      Fields.contains fields name = true → DependencyHolds P fields d
  | some .allOf, .array members => ∀ s ∈ members, P s j
  | some .anyOf, .array members => members = [] ∨ ∃ s ∈ members, P s j
  | some .oneOf, .array members => members = [] ∨ ExactlyOne P members j
  | some .not, s => ¬ P s j
  | _, _ => True

end Holds

-- A value satisfies a schema. The schemas below a node are all smaller than the node.
def Satisfies : (schema : Json) → (j : Json) → Prop
  | .bool b, _      => b = true
  | .object node, j =>
    ∀ keyword config, (keyword, config) ∈ node →
      KeywordHolds (fun s part => ∃ _ : sizeOf s < sizeOf (Json.object node), Satisfies s part)
        node keyword config j
  | _, _            => True
termination_by schema => sizeOf schema
decreasing_by
  rename_i h
  exact h

namespace Json

variable {s t : Json} {node : Fields} {keyword : String} {config : Json}

theorem AppliedBy.sizeOf_le (h : s.AppliedBy keyword config) : sizeOf s ≤ sizeOf config := by
  cases h
  case property hm | dependency hm =>
    have := List.sizeOf_lt_of_mem hm
    simp at this ⊢
    omega
  case slot hm | allOf hm | anyOf hm | oneOf hm =>
    have := List.sizeOf_lt_of_mem hm
    simp
    omega
  all_goals exact Nat.le_refl _

theorem Below.sizeOf_lt (h : s.Below node) : sizeOf s < sizeOf (Json.object node) := by
  obtain ⟨keyword, config, hm, ha⟩ := h
  have hs := ha.sizeOf_le
  have := List.sizeOf_lt_of_mem hm
  simp at this ⊢
  omega

theorem RequiresNames.below (h : (object node).RequiresNames) (hs : s.Below node) :
    s.RequiresNames :=
  fun inner b hi => h inner b (.inner hs hi)

theorem AppliedBy.occurs (h : s.AppliedBy keyword config) : s.Occurs config := by
  cases h
  case property hm | dependency hm             => exact .field hm .self
  case slot hm | allOf hm | anyOf hm | oneOf hm => exact .item hm .self
  all_goals exact .self

theorem Subschema.occurs (h : s.Subschema t) : s.Occurs t := by
  induction h with
  | self => exact .self
  | inner hb _ ih =>
    obtain ⟨keyword, config, hm, ha⟩ := hb
    exact .field hm (ih.trans ha.occurs)

theorem WellFormed.occurs {i j : Json} (h : j.WellFormed) (ho : i.Occurs j) : i.WellFormed := by
  induction ho with
  | self         => exact h
  | item hm _ ih => exact ih (wellFormed_array.mp h _ hm)
  | field hm _ ih => exact ih ((wellFormed_object.mp h).right _ _ hm)

theorem WellFormed.below (h : (object node).WellFormed) (hs : s.Below node) : s.WellFormed := by
  obtain ⟨keyword, config, hm, ha⟩ := hs
  exact h.occurs (.field hm ha.occurs)

theorem requiresNames_of_occurs
    (h : ∀ node b, (object node).Occurs t → ("required", .bool b) ∉ node) : t.RequiresNames :=
  fun node b hs => h node b hs.occurs

theorem schema_induct {motive : Json → Prop} (bool : ∀ b, motive (.bool b))
    (object : ∀ node, (∀ s, s.Below node → motive s) → motive (.object node))
    (other : ∀ s, (∀ b, s ≠ .bool b) → (∀ node, s ≠ .object node) → motive s) (s : Json) :
    motive s := by
  induction hn : sizeOf s using Nat.strongRecOn generalizing s with
  | ind n ih =>
    cases s
    case bool b      => exact bool b
    case object node => exact object node fun s hs => ih _ (hn ▸ hs.sizeOf_lt) s rfl
    all_goals exact other _ (by simp) (by simp)

end Json

def Applicator.name : Applicator → String
  | properties           => "properties"
  | additionalProperties => "additionalProperties"
  | items                => "items"
  | contains             => "contains"
  | dependencies         => "dependencies"
  | allOf                => "allOf"
  | anyOf                => "anyOf"
  | oneOf                => "oneOf"
  | not                  => "not"

theorem Applicator.eq_name {keyword : String} {a : Applicator} (h : ofName? keyword = some a) :
    keyword = a.name := by
  unfold ofName? at h
  split at h <;> cases h <;> rfl

section Congruence

variable {P Q : Json → Json → Prop} {node : Fields} {keyword : String} {config j : Json}

theorem dependencyHolds_congr {d : Json} (h : ∀ part, P d part ↔ Q d part) (fields : Fields) :
    DependencyHolds P fields d ↔ DependencyHolds Q fields d := by
  cases d
  case object => exact h _
  case bool   => exact h _
  all_goals exact Iff.rfl

theorem exactlyOne_congr {members : List Json} (h : ∀ s ∈ members, P s j ↔ Q s j) :
    ExactlyOne P members j ↔ ExactlyOne Q members j := by
  refine exists_congr fun front => exists_congr fun s => exists_congr fun back => ?_
  refine and_congr_right fun hm => ?_
  subst hm
  refine and_congr (h s (by simp)) (forall₂_congr fun t ht => not_congr (h t ?_))
  simp only [List.mem_append, List.mem_cons] at ht ⊢
  exact ht.imp_right .inr

theorem keywordHolds_congr (hm : (keyword, config) ∈ node)
    (h : ∀ s : Json, s.Below node → ∀ part, P s part ↔ Q s part) :
    KeywordHolds P node keyword config j ↔ KeywordHolds Q node keyword config j := by
  have hb {s : Json} (ha : s.AppliedBy keyword config) (part : Json) : P s part ↔ Q s part :=
    h s ⟨keyword, config, hm, ha⟩ part
  simp only [KeywordHolds]
  cases ha : Applicator.ofName? keyword with
  | none => exact Iff.rfl
  | some a =>
    obtain rfl := Applicator.eq_name ha
    cases a
    case properties =>
      cases config
      case object schemas =>
        exact forall₂_congr fun _ _ => forall₅_congr fun _ _ part hs _ => hb (.property hs) part
      all_goals exact Iff.rfl
    case additionalProperties =>
      exact forall₂_congr fun _ _ => forall₄_congr fun _ part _ _ => hb .otherProperties part
    case items =>
      cases config
      case array slots =>
        refine forall₂_congr fun _ _ => and_congr ?_ ?_
        case refine_1 =>
          exact forall₅_congr fun _ _ part hs _ => hb (.slot (List.mem_of_getElem? hs)) part
        case refine_2 =>
          refine forall₂_congr fun s hs => forall₂_congr fun part _ => h s ?_ part
          exact ⟨_, s, Fields.mem_of_get? hs, .otherItems⟩
      case object | bool =>
        exact forall₂_congr fun _ _ => forall₂_congr fun part _ => hb .items part
      all_goals exact Iff.rfl
    case contains =>
      exact forall₂_congr fun _ _ => exists_congr fun part => and_congr_right fun _ => hb .contains part
    case dependencies =>
      cases config
      case object rules =>
        exact forall₂_congr fun fields _ => forall₄_congr fun _ _ hd _ =>
          dependencyHolds_congr (hb (.dependency hd)) fields
      all_goals exact Iff.rfl
    case allOf =>
      cases config
      case array members => exact forall₂_congr fun _ hs => hb (.allOf hs) j
      all_goals exact Iff.rfl
    case anyOf =>
      cases config
      case array members =>
        exact or_congr_right (exists_congr fun _ => and_congr_right fun hs => hb (.anyOf hs) j)
      all_goals exact Iff.rfl
    case oneOf =>
      cases config
      case array members => exact or_congr_right (exactlyOne_congr fun _ hs => hb (.oneOf hs) j)
      all_goals exact Iff.rfl
    case not => exact not_congr (hb .not j)

end Congruence

theorem satisfies_bool {b : Bool} {j : Json} : Satisfies (.bool b) j ↔ b = true := by
  rw [Satisfies]

theorem satisfies_object {node : Fields} {j : Json} :
    Satisfies (.object node) j ↔
      ∀ keyword config, (keyword, config) ∈ node → KeywordHolds Satisfies node keyword config j := by
  rw [Satisfies]
  refine forall₃_congr fun keyword config hm => keywordHolds_congr hm fun s hs part => ?_
  exact ⟨fun ⟨_, h⟩ => h, fun h => ⟨hs.sizeOf_lt, h⟩⟩

end JsonSchema

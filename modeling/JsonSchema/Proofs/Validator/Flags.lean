import JsonSchema.Proofs.Validator.Satisfaction

namespace JsonSchema

open Validator

variable {node : Fields} {keyword : String} {value s j : Json}

-- The keywords next to which a truth value is no list of names and no bound, but a flag.
def flagKeywords : List String := ["required", "exclusiveMinimum", "exclusiveMaximum"]

def Json.FlagFree (schema : Json) : Prop :=
  ∀ node keyword b, (Json.object node).Subschema schema → keyword ∈ flagKeywords →
    (keyword, .bool b) ∉ node

structure FlagFreeAt (keyword : String) (value : Json) : Prop where
  noFlag : keyword ∈ flagKeywords → ∀ b, value ≠ .bool b
  below  : ∀ s : Json, s.AppliedBy keyword value → s.FlagFree

theorem flagFree_object : (Json.object node).FlagFree ↔
    ∀ keyword value, (keyword, value) ∈ node → FlagFreeAt keyword value := by
  constructor
  case mp =>
    intro h keyword value hm
    constructor
    case noFlag =>
      rintro hk b rfl
      exact h node keyword b .self hk hm
    case below => exact fun s ha inner k b hi => h inner k b (.inner ⟨keyword, value, hm, ha⟩ hi)
  case mpr =>
    intro h inner k b hi hk hm
    cases hi with
    | self        => exact (h k _ hm).noFlag hk b rfl
    | inner hb hi =>
      obtain ⟨keyword, value, hv, ha⟩ := hb
      exact (h keyword value hv).below _ ha inner k b hi hk hm

theorem flagFree_of_ne_object (h : ∀ node, s ≠ .object node) : s.FlagFree := by
  intro node keyword b hs
  cases hs
  case self  => exact absurd rfl (h _)
  case inner => exact absurd rfl (h _)

theorem Json.FlagFree.requiresNames (h : s.FlagFree) : s.RequiresNames :=
  fun node b hs => h node "required" b hs (by decide)

theorem flagFree_of_nodes
    (h : ((s.nodes .root).all fun (_, j) => (j.asObject?.getD []).all fun (keyword, value) =>
      !(flagKeywords.contains keyword && value.asBool?.isSome)) = true) : s.FlagFree := by
  intro node keyword b hs hk hm
  obtain ⟨p, hp⟩ := hs.occurs.exists_mem_nodes .root
  have hn := List.all_eq_true.mp (List.all_eq_true.mp h _ hp) _ hm
  simp [hk, Json.asBool?] at hn

theorem Json.FlagFree.hasFlag (h : (object node).FlagFree) (hk : keyword ∈ flagKeywords) :
    hasFlag node keyword = false := by
  unfold Validator.hasFlag
  cases hg : Fields.get? node keyword with
  | none       => rfl
  | some value =>
    cases value
    case bool b => exact absurd (Fields.mem_of_get? hg) (h node keyword b .self hk)
    all_goals rfl

theorem flagFreeAt_array {items : List Json} (h : ∀ s ∈ items, s.FlagFree) :
    FlagFreeAt keyword (.array items) where
  noFlag := by simp
  below  := by
    intro s hs
    cases hs
    case slot hm | allOf hm | anyOf hm | oneOf hm => exact h s hm
    all_goals exact flagFree_of_ne_object (by simp)

theorem FlagFreeAt.subset {items others : List Json} (h : FlagFreeAt keyword (.array items))
    (hs : ∀ s ∈ others, s ∈ items) : FlagFreeAt keyword (.array others) where
  noFlag := by simp
  below  := by
    intro s ha
    cases ha
    case slot hm  => exact h.below s (.slot (hs s hm))
    case allOf hm => exact h.below s (.allOf (hs s hm))
    case anyOf hm => exact h.below s (.anyOf (hs s hm))
    case oneOf hm => exact h.below s (.oneOf (hs s hm))
    all_goals exact flagFree_of_ne_object (by simp)

theorem flagFreeAt_object {fields : Fields} (hs : (Json.object fields).FlagFree)
    (hk : keyword ∉ ["properties", "dependencies"]) : FlagFreeAt keyword (.object fields) where
  noFlag := by simp
  below  := by
    intro s ha
    cases ha
    case property | dependency => simp at hk
    all_goals exact hs

theorem flagFreeAt_fields (hk : keyword ∈ ["properties", "dependencies"])
    (hs : ∀ fields name s, value = .object fields → (name, s) ∈ fields → s.FlagFree) :
    FlagFreeAt keyword value where
  noFlag := by
    rintro hf _ rfl
    simp only [List.mem_cons, List.not_mem_nil, or_false] at hk
    rcases hk with rfl | rfl <;> exact absurd hf (by decide)
  below  := by
    intro s ha
    cases ha
    case property hm | dependency hm => exact hs _ _ s rfl hm
    all_goals simp at hk

theorem flagFreeAt_schema (hs : s.FlagFree)
    (hk : keyword ∈ ["additionalItems", "additionalProperties", "contains", "not"]) :
    FlagFreeAt keyword s where
  noFlag := by
    rintro hf _ rfl
    simp only [flagKeywords, List.mem_cons, List.not_mem_nil, or_false] at hf
    rcases hf with rfl | rfl | rfl <;> simp at hk
  below  := by
    intro t ha
    cases ha <;> simp at hk
    all_goals exact hs

def applying : List String :=
  ["properties", "additionalProperties", "items", "additionalItems", "contains", "dependencies",
    "allOf", "anyOf", "oneOf", "not"]

theorem flagFreeAt_plain (hk : keyword ∉ applying)
    (hn : keyword ∈ flagKeywords → ∀ b, value ≠ .bool b) : FlagFreeAt keyword value where
  noFlag := hn
  below  := by
    intro s ha
    cases ha <;> simp [applying] at hk

end JsonSchema

import JsonSchema.Proofs.Merge.Steps
import JsonSchema.Proofs.Validator.Agreement
import JsonSchema.Proofs.Validator.Equality

namespace JsonSchema

namespace Json

variable {i j : Json} {left right : List Json}

theorem exists_right_of_mem_intersect (h : j ∈ intersect left right) :
    ∃ i ∈ right, i.canonical = j.canonical := by
  obtain ⟨i, hi, he⟩ := List.any_eq_true.mp (List.mem_filter.mp (mem_of_mem_distinct h)).right
  exact ⟨i, hi, canonical_eq_of_same he⟩

end Json

namespace Merge

open Validator

variable {keyword : String} {left right members others : List Json} {j s t : Json}

def alternatives (keyword : String) (members : List Json) : Json := .object [(keyword, .array members)]

def alternativeKeywords : List String := ["anyOf", "oneOf", "enum"]

theorem signed_alternatives (h : ∀ s ∈ members, s.Signed) : (alternatives keyword members).Signed := by
  intro negative magnitude ho
  cases ho with
  | field hm ho =>
    cases List.mem_singleton.mp hm
    cases ho with
    | item hm ho => exact h _ hm negative magnitude ho

theorem accepts_iff_of_canonical (hs : s.Signed) (ht : t.Signed) (h : s.canonical = t.canonical) :
    Accepts s j ↔ Accepts t j :=
  (alike_of_canonical hs ht h).passes_iff

theorem accepts_enum (hj : j.Instance) :
    Accepts (alternatives "enum" members) j ↔ (JsonSchema.Rule.enum members).holds j = true := by
  have h : ofSchema (alternatives "enum" members) = all [rule (.enum members)] := rfl
  simp [Accepts, h, passes_all, passes_rule hj.full.isEmpty]

theorem accepts_oneOf (hj : j.Instance) (hn : members ≠ []) :
    Accepts (alternatives "oneOf" members) j ↔
      members.countP (fun s => (ofSchema s).isValid j) = 1 := by
  have h : ofSchema (alternatives "oneOf" members) = all [one (members.map ofSchema)] := by
    rw [← ofSchemas_eq_map]
    rfl
  have hp : Accepts (alternatives "oneOf" members) j ↔ (one (members.map ofSchema)).Passes (some j) := by
    simp [Accepts, h, passes_all]
  rw [hp, passes_one hj.full.isEmpty, List.map_eq_nil_iff, List.countP_map]
  exact or_iff_right hn

theorem holds_enum_of_canonical (hc : ∀ c ∈ members, ∃ a ∈ others, a.canonical = c.canonical)
    (h : (JsonSchema.Rule.enum members).holds j = true) :
    (JsonSchema.Rule.enum others).holds j = true := by
  rw [holds_enum] at h ⊢
  intro i hi
  obtain ⟨c, hm, hs⟩ := h i hi
  obtain ⟨a, ha, he⟩ := hc c hm
  exact ⟨a, ha, Json.similar_eq_of_canonical he i ▸ hs⟩

-- What is accepted for a member is accepted for a list with an equal one, where members are not counted
-- beyond the first one.
theorem accepts_of_common (hk : keyword ∈ alternativeKeywords) (hj : j.Instance) (hn : members ≠ [])
    (ho : others ≠ []) (hs : ∀ s ∈ members ++ others, s.Signed)
    (hc : ∀ c ∈ members, ∃ a ∈ others, a.canonical = c.canonical)
    (hone : keyword = "oneOf" → others.countP (fun s => (ofSchema s).isValid j) ≤ 1)
    (h : Accepts (alternatives keyword members) j) : Accepts (alternatives keyword others) j := by
  have hlike {c : Json} (hm : c ∈ members) (ha : Accepts c j) : ∃ a ∈ others, Accepts a j := by
    obtain ⟨a, hm', he⟩ := hc c hm
    have hsa := hs a (List.mem_append_right _ hm')
    exact ⟨a, hm', (accepts_iff_of_canonical hsa (hs c (List.mem_append_left _ hm)) he).mpr ha⟩
  simp only [alternativeKeywords, List.mem_cons, List.not_mem_nil, or_false] at hk
  obtain rfl | rfl | rfl := hk
  case inl =>
    obtain ⟨c, hm, ha⟩ := (accepts_anyOf hj hn).mp h
    exact (accepts_anyOf hj ho).mpr (hlike hm ha)
  case inr.inl =>
    rw [accepts_oneOf hj hn] at h
    rw [accepts_oneOf hj ho]
    obtain ⟨c, hm, ha⟩ := List.countP_pos_iff.mp (h ▸ Nat.one_pos)
    obtain ⟨a, hm', ha'⟩ := hlike hm (isValid_iff.mp ha)
    have hpos : 0 < others.countP fun s => (ofSchema s).isValid j :=
      List.countP_pos_iff.mpr ⟨a, hm', isValid_iff.mpr ha'⟩
    exact Nat.le_antisymm (hone rfl) hpos
  case inr.inr =>
    rw [accepts_enum hj] at h ⊢
    exact holds_enum_of_canonical hc h

theorem tryMerge?_alternatives (hk : keyword ∈ alternativeKeywords) (left right : List Json) :
    tryMerge? [alternatives keyword left, alternatives keyword right] =
      if Json.array left == Json.array right then some (alternatives keyword left)
      else if (Json.intersect left right).isEmpty then none
      else some (alternatives keyword (Json.intersect left right)) := by
  have hr : ∀ other ∈ alternativeKeywords, Rule.ofKeyword other = .alternatives ∧
      other ∉ ["properties", "additionalProperties"] ++ identifiers := by decide
  obtain ⟨hr, hs⟩ := hr keyword hk
  obtain ⟨levels, h⟩ := tryMerge?_singles hs (.array left) [.array right]
  simp only [List.map_cons, List.map_nil, List.foldlM_cons, List.foldlM_nil, bind_pure] at h
  refine h.trans ?_
  simp only [combine?, mergeValues, hr, mergeAlternatives]
  split
  case isTrue  => rfl
  case isFalse => cases (Json.intersect left right).isEmpty <;> rfl

-- A value that is accepted for two merged lists of alternatives is accepted for both of them, except where
-- more than one member of a list of which exactly one is to be satisfied accepts it.
theorem isValid_alternatives_iff (hk : keyword ∈ alternativeKeywords) (hl : left ≠ []) (hr : right ≠ [])
    (hs : ∀ s ∈ left ++ right, s.Signed) (hj : j.Instance)
    (h : (ofSchema (mergeAll [alternatives keyword left, alternatives keyword right])).isValid j = true) :
    ((ofSchema (alternatives keyword left)).isValid j = true ∧
      (ofSchema (alternatives keyword right)).isValid j = true) ↔
    (keyword = "oneOf" → ∀ members ∈ [left, right],
      members.countP (fun s => (ofSchema s).isValid j) ≤ 1) := by
  have ⟨hsl, hsr⟩ := List.forall_mem_append.mp hs
  rw [isValid_iff] at h ⊢
  rw [isValid_iff]
  constructor
  case mp =>
    rintro ⟨ha, hb⟩ rfl
    simp only [List.mem_cons, List.not_mem_nil, or_false, forall_eq_or_imp, forall_eq]
    exact ⟨Nat.le_of_eq ((accepts_oneOf hj hl).mp ha), Nat.le_of_eq ((accepts_oneOf hj hr).mp hb)⟩
  case mpr =>
    intro hone
    rw [mergeAll, conjoin, tryMerge?_alternatives hk] at h
    split at h
    case isTrue he =>
      have hc : (alternatives keyword left).canonical = (alternatives keyword right).canonical := by
        simp only [alternatives, Json.canonical, Json.canonicalFields]
        rw [← Json.canonical, Json.canonical_eq_of_same he, Json.canonical]
      exact ⟨h, (accepts_iff_of_canonical (signed_alternatives hsl) (signed_alternatives hsr) hc).mp h⟩
    case isFalse =>
      split at h
      case isTrue =>
        have h : ∀ s ∈ [alternatives keyword left, alternatives keyword right], Accepts s j :=
          accepts_allOf.mp h
        exact ⟨h _ (by simp), h _ (by simp)⟩
      case isFalse hn =>
        have hne : Json.intersect left right ≠ [] := fun he => hn (List.isEmpty_iff.mpr he)
        have hsc : ∀ s ∈ Json.intersect left right, s.Signed :=
          fun s hm => hsl s (Json.mem_of_mem_intersect hm)
        constructor
        case left =>
          exact accepts_of_common hk hj hne hl (List.forall_mem_append.mpr ⟨hsc, hsl⟩)
            (fun c hc => ⟨c, Json.mem_of_mem_intersect hc, rfl⟩) (fun ho => hone ho left (by simp)) h
        case right =>
          exact accepts_of_common hk hj hne hr (List.forall_mem_append.mpr ⟨hsc, hsr⟩)
            (fun c hc => Json.exists_right_of_mem_intersect hc) (fun ho => hone ho right (by simp)) h

-- Exactly one is to be satisfied of these, but a longer text satisfies both if texts are asked for.
def lengthOrType (type : String) : List Json :=
  [.object [("minLength", .ofNat 2)], .object [("type", .string type)]]

theorem isValid_alternatives_flag :
    let left := lengthOrType "string"
    let right := lengthOrType "number"
    "oneOf" ∈ alternativeKeywords ∧ left ≠ [] ∧ right ≠ [] ∧ (∀ s ∈ left ++ right, s.Signed) ∧
      (Json.bool true).Instance ∧
      (ofSchema (mergeAll [alternatives "oneOf" left, alternatives "oneOf" right])).isValid
        (.bool true) = true ∧
      (((ofSchema (alternatives "oneOf" left)).isValid (.bool true) = true ∧
        (ofSchema (alternatives "oneOf" right)).isValid (.bool true) = true) ↔
      ("oneOf" = "oneOf" → ∀ members ∈ [left, right],
        members.countP (fun s => (ofSchema s).isValid (.bool true)) ≤ 1)) := by
  intro left right
  have hk : "oneOf" ∈ alternativeKeywords := by decide
  have hl : left ≠ [] := List.cons_ne_nil _ _
  have hr : right ≠ [] := List.cons_ne_nil _ _
  have hs : ∀ s ∈ left ++ right, s.Signed := by
    have hn : ∀ s ∈ left ++ right, (s.nodes .root).all fun entry => entry.2.hasSignedNumber := by
      decide +kernel
    exact fun s hm => Json.signed_of_nodes (hn s hm)
  have hj : (Json.bool true).Instance := ⟨.bool _, by decide⟩
  have h : (ofSchema (mergeAll [alternatives "oneOf" left, alternatives "oneOf" right])).isValid
      (.bool true) = true := by decide +kernel
  exact ⟨hk, hl, hr, hs, hj, h, isValid_alternatives_iff hk hl hr hs hj h⟩

theorem not_isValid_alternatives_text :
    let left := alternatives "oneOf" (lengthOrType "string")
    let right := alternatives "oneOf" (lengthOrType "number")
    (ofSchema (mergeAll [left, right])).isValid (.string "abc") = true ∧
      (ofSchema left).isValid (.string "abc") = false := by
  decide +kernel

end Merge

end JsonSchema

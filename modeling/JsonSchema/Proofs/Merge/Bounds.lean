import JsonSchema.Proofs.Binary64.Order
import JsonSchema.Proofs.Merge.Nodes

namespace JsonSchema

namespace Merge

open Validator

variable {keyword strict : String} {m n : Number} {value j : Json}

def lowerBounds : List String := ["minimum", "exclusiveMinimum"]

def upperBounds : List String := ["maximum", "exclusiveMaximum"]

theorem ofKeyword_of_mem_lowerBounds (h : keyword ∈ lowerBounds) : Rule.ofKeyword keyword = .lowerBound := by
  revert keyword
  decide

theorem ofKeyword_of_mem_upperBounds (h : keyword ∈ upperBounds) : Rule.ofKeyword keyword = .upperBound := by
  revert keyword
  decide

def strictKeyword? : String → Option String
  | "minimum" => some "exclusiveMinimum"
  | "maximum" => some "exclusiveMaximum"
  | _         => none

theorem strictKeyword?_cases (keyword : String) :
    keyword = "minimum" ∨ keyword = "maximum" ∨ strictKeyword? keyword = none := by
  unfold strictKeyword?
  split <;> simp

def boundRule : String → Number → JsonSchema.Rule
  | "minimum"          => .minimum
  | "exclusiveMinimum" => .exclusiveMinimum
  | "maximum"          => .maximum
  | _                  => .exclusiveMaximum

theorem demands_bound (hj : j.Instance) (hk : keyword ∈ lowerBounds ++ upperBounds) :
    Demands keyword (.number n) j ↔ (boundRule keyword n).holds j = true := by
  simp only [lowerBounds, upperBounds, List.cons_append, List.nil_append, List.mem_cons, List.not_mem_nil,
    or_false] at hk
  rcases hk with rfl | rfl | rfl | rfl <;> exact (demands_eq_some rfl).trans (passes_rule hj.full.isEmpty)

theorem demands_of_lowerBound (hj : j.Instance) (hk : keyword ∈ lowerBounds)
    (hle : m.toBinary64.numLe n.toBinary64 = true) (h : Demands keyword (.number n) j) :
    Demands keyword (.number m) j := by
  have hb := List.mem_append_left upperBounds hk
  simp only [lowerBounds, List.mem_cons, List.not_mem_nil, or_false] at hk
  rw [demands_bound hj hb] at h ⊢
  rcases hk with rfl | rfl <;> simp [boundRule, JsonSchema.Rule.holds, Option.all_eq_true] at h ⊢
  case inl => exact fun x hx => Binary64.numLe_trans hle (h x hx)
  case inr => exact fun x hx => Binary64.numLt_of_numLe_of_numLt hle (h x hx)

theorem demands_of_upperBound (hj : j.Instance) (hk : keyword ∈ upperBounds)
    (hle : n.toBinary64.numLe m.toBinary64 = true) (h : Demands keyword (.number n) j) :
    Demands keyword (.number m) j := by
  have hb := List.mem_append_right lowerBounds hk
  simp only [upperBounds, List.mem_cons, List.not_mem_nil, or_false] at hk
  rw [demands_bound hj hb] at h ⊢
  rcases hk with rfl | rfl <;> simp [boundRule, JsonSchema.Rule.holds, Option.all_eq_true] at h ⊢
  case inl => exact fun x hx => Binary64.numLe_trans (h x hx) hle
  case inr => exact fun x hx => Binary64.numLt_of_numLt_of_numLe (h x hx) hle

theorem demands_of_strict (hj : j.Instance) (hs : strictKeyword? keyword = some strict)
    (h : Demands strict value j) : Demands keyword value j := by
  obtain rfl | rfl | hn := strictKeyword?_cases keyword
  case inr.inr => simp [hn] at hs
  all_goals
    cases hs
    cases value
    case number =>
      rw [demands_bound hj (by decide)] at h ⊢
      simp [boundRule, JsonSchema.Rule.holds, Option.all_eq_true] at h ⊢
      exact fun x hx => Binary64.numLe_of_numLt (h x hx)
    all_goals exact fun v hv => by cases hv

variable (hm : m.WellFormed) (hn : n.WellFormed)

include hm hn

theorem le_of_mergeBound_lower
    (h : (mergeBound (fun x y => y.numLt x) (.number m) (.number n)).kept? = some value) :
    ∃ k, value = .number k ∧ m.toBinary64.numLe k.toBinary64 = true ∧
      n.toBinary64.numLe k.toBinary64 = true := by
  have hr {n : Number} (hn : n.WellFormed) : n.toBinary64.numLe n.toBinary64 = true :=
    Binary64.numLe_refl (Number.toBinary64_ne_nan hn)
  simp only [mergeBound] at h
  split at h <;> cases h
  case isTrue hlt => exact ⟨n, rfl, Binary64.numLe_of_numLt hlt, hr hn⟩
  case isFalse hlt =>
    refine ⟨m, rfl, hr hm, ?_⟩
    exact Binary64.numLe_of_not_numLt (Number.toBinary64_ne_nan hm) (Number.toBinary64_ne_nan hn)
      (Bool.eq_false_iff.mpr hlt)

theorem le_of_mergeBound_upper
    (h : (mergeBound Binary64.numLt (.number m) (.number n)).kept? = some value) :
    ∃ k, value = .number k ∧ k.toBinary64.numLe m.toBinary64 = true ∧
      k.toBinary64.numLe n.toBinary64 = true := by
  have hr {n : Number} (hn : n.WellFormed) : n.toBinary64.numLe n.toBinary64 = true :=
    Binary64.numLe_refl (Number.toBinary64_ne_nan hn)
  simp only [mergeBound] at h
  split at h <;> cases h
  case isTrue hlt => exact ⟨n, rfl, Binary64.numLe_of_numLt hlt, hr hn⟩
  case isFalse hlt =>
    refine ⟨m, rfl, hr hm, ?_⟩
    exact Binary64.numLe_of_not_numLt (Number.toBinary64_ne_nan hn) (Number.toBinary64_ne_nan hm)
      (Bool.eq_false_iff.mpr hlt)

end Merge

end JsonSchema

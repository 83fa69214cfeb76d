import JsonSchema.Proofs.Binary64.Rounding
import JsonSchema.Proofs.Validator.Repetition

namespace JsonSchema

variable {a b : Int}

def Json.ofInt (n : Int) : Json := .number (.integer n)

theorem Json.similar_ofInt : (ofInt a).similar (ofInt b) = true ↔ Binary64.ofInt a = Binary64.ofInt b := by
  have hs : (ofInt a).similar (ofInt b) = (a == b || (Binary64.ofInt a).numEq (Binary64.ofInt b)) := rfl
  rw [hs, Bool.or_eq_true, beq_iff_eq, Binary64.numEq_ofInt_iff]
  exact or_iff_right_of_imp (congrArg Binary64.ofInt)

namespace Validator

theorem isValid_rule_ofInt (r : Rule) (n : Int) : (rule r).isValid (.ofInt n) = r.holds (.ofInt n) :=
  isValid_rule r rfl

theorem isValid_const_ofInt :
    (rule (.const (.ofInt a))).isValid (.ofInt b) = true ↔ Binary64.ofInt a = Binary64.ofInt b := by
  rw [isValid_rule_ofInt]
  exact Json.similar_ofInt

theorem isValid_enum_ofInt :
    (rule (.enum [.ofInt a])).isValid (.ofInt b) = true ↔ Binary64.ofInt a = Binary64.ofInt b := by
  have h : (Rule.enum [.ofInt a]).holds (.ofInt b) = ((Json.ofInt a).similar (.ofInt b) || false) := rfl
  rw [isValid_rule_ofInt, h, Bool.or_false, Json.similar_ofInt]

theorem isValid_uniqueItems_ofInt :
    (uniqueItemsIf true).isValid (.array [.ofInt a, .ofInt b]) = true ↔
      Binary64.ofInt a ≠ Binary64.ofInt b := by
  rw [isValid_uniqueItems_iff (List.cons_ne_nil _ _), List.pairwise_pair, ne_eq, ← Json.similar_ofInt,
    Bool.not_eq_true]

theorem isValid_minimum_ofInt :
    (rule (.minimum (.integer a))).isValid (.ofInt b) = true ↔
      a ≤ b ∨ Binary64.ofInt a = Binary64.ofInt b := by
  rw [isValid_rule_ofInt]
  exact Binary64.numLe_ofInt_iff

theorem isValid_maximum_ofInt :
    (rule (.maximum (.integer a))).isValid (.ofInt b) = true ↔
      b ≤ a ∨ Binary64.ofInt b = Binary64.ofInt a := by
  rw [isValid_rule_ofInt]
  exact Binary64.numLe_ofInt_iff

theorem isValid_exclusiveMinimum_ofInt :
    (rule (.exclusiveMinimum (.integer a))).isValid (.ofInt b) = true ↔
      a < b ∧ Binary64.ofInt a ≠ Binary64.ofInt b := by
  rw [isValid_rule_ofInt]
  exact Binary64.numLt_ofInt_iff

theorem isValid_exclusiveMaximum_ofInt :
    (rule (.exclusiveMaximum (.integer a))).isValid (.ofInt b) = true ↔
      b < a ∧ Binary64.ofInt b ≠ Binary64.ofInt a := by
  rw [isValid_rule_ofInt]
  exact Binary64.numLt_ofInt_iff

-- Validators made from the first integer decide about the second one as integers are compared.
structure DecidesExactly (a b : Int) : Prop where
  const            : (rule (.const (.ofInt a))).isValid (.ofInt b) = true ↔ a = b
  enum             : (rule (.enum [.ofInt a])).isValid (.ofInt b) = true ↔ a = b
  uniqueItems      : (uniqueItemsIf true).isValid (.array [.ofInt a, .ofInt b]) = true ↔ a ≠ b
  minimum          : (rule (.minimum (.integer a))).isValid (.ofInt b) = true ↔ a ≤ b
  maximum          : (rule (.maximum (.integer a))).isValid (.ofInt b) = true ↔ b ≤ a
  exclusiveMinimum : (rule (.exclusiveMinimum (.integer a))).isValid (.ofInt b) = true ↔ a < b
  exclusiveMaximum : (rule (.exclusiveMaximum (.integer a))).isValid (.ofInt b) = true ↔ b < a

theorem decidesExactly_of_ofInt_eq_iff (h : Binary64.ofInt a = Binary64.ofInt b ↔ a = b) :
    DecidesExactly a b where
  const            := isValid_const_ofInt.trans h
  enum             := isValid_enum_ofInt.trans h
  uniqueItems      := isValid_uniqueItems_ofInt.trans h.not
  minimum          := by rw [isValid_minimum_ofInt, h, or_iff_left_of_imp Eq.le]
  maximum          := by rw [isValid_maximum_ofInt, eq_comm, h, or_iff_left_of_imp Eq.ge]
  exclusiveMinimum := by rw [isValid_exclusiveMinimum_ofInt, ne_eq, h, and_iff_left_of_imp ne_of_lt]
  exclusiveMaximum := by
    rw [isValid_exclusiveMaximum_ofInt, ne_comm, ne_eq, h, and_iff_left_of_imp ne_of_gt]

-- To be right about two integers is to tell them apart, which binary64 numbers do if one of them is below the
-- limit.
theorem decidesExactly_iff (a b : Int) :
    (DecidesExactly a b ↔ (Binary64.ofInt a = Binary64.ofInt b → a = b)) ∧
      (a.natAbs < Binary64.exactLimit ∨ b.natAbs < Binary64.exactLimit → DecidesExactly a b) := by
  refine ⟨⟨fun h he => h.const.mp (isValid_const_ofInt.mpr he), fun h => ?_⟩, fun hs => ?_⟩
  case refine_1 => exact decidesExactly_of_ofInt_eq_iff ⟨h, congrArg Binary64.ofInt⟩
  case refine_2 => exact decidesExactly_of_ofInt_eq_iff (Binary64.ofInt_inj hs)

-- Each validator is wrong about the first integer that is no number of the format and the one before it.
theorem not_decidesExactly_neighbours :
    let less := Int.ofNat Binary64.exactLimit
    let more := less + 1
    ¬ DecidesExactly more less ∧
      (rule (.const (.ofInt more))).isValid (.ofInt less) = true ∧
      (rule (.enum [.ofInt more])).isValid (.ofInt less) = true ∧
      (uniqueItemsIf true).isValid (.array [.ofInt more, .ofInt less]) = false ∧
      (rule (.minimum (.integer more))).isValid (.ofInt less) = true ∧
      (rule (.maximum (.integer less))).isValid (.ofInt more) = true ∧
      (rule (.exclusiveMinimum (.integer less))).isValid (.ofInt more) = false ∧
      (rule (.exclusiveMaximum (.integer more))).isValid (.ofInt less) = false :=
  ⟨fun h => absurd (h.const.mp (by decide +kernel)) (by decide), by decide +kernel⟩

end Validator

end JsonSchema

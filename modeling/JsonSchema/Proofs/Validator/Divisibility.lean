import JsonSchema.Proofs.Validator.Integers
import Mathlib.Algebra.Order.Group.MinMax

namespace JsonSchema

namespace Rule

open Binary64 (exactLimit roundHalfAway roundMagnitude)

variable {p q : Rat} {n d : Nat}

theorem roundHalfAway_eq_round (h : 0 ≤ q) : roundHalfAway q = round q := by
  rw [roundHalfAway, if_neg (not_lt.mpr h), round_eq]
  rfl

-- How far a number is from the nearest integer.
def remoteness (q : Rat) : Rat := |q - round q|

theorem remoteness_le_add (p q : Rat) : remoteness p ≤ remoteness q + |p - q| :=
  calc |p - round p| ≤ |p - round q| := round_le p (round q)
    _ ≤ |p - q| + |q - round q| := abs_sub_le p q _
    _ = remoteness q + |p - q| := add_comm _ _

theorem remoteness_le_half (q : Rat) : remoteness q ≤ 1 / 2 := abs_sub_round q

-- How far an integer is from the nearest multiple.
def offset (d n : Nat) : Nat := min (n % d) (d - n % d)

theorem remoteness_div (n d : Nat) : remoteness (n / d) = offset d n / d :=
  abs_sub_round_div_natCast_eq

theorem offset_pos (hd : 0 < d) (h : ¬ d ∣ n) : 0 < offset d n := by
  have hr : n % d ≠ 0 := fun hz => h (Nat.dvd_of_mod_eq_zero hz)
  have hm := Nat.mod_lt n hd
  unfold offset
  omega

theorem offset_eq_zero (h : d ∣ n) : offset d n = 0 := by
  simp [offset, Nat.mod_eq_zero_of_dvd h]

def slack : Rat := roundMagnitude (1 / 10 ^ 9)

theorem tolerance_eq : tolerance = .finite false slack := by
  have h : ((1 : Nat) : Rat) * 10 ^ (-9 : Int) = 1 / 10 ^ 9 := by norm_num
  rw [tolerance, Binary64.ofDecimal, h]
  exact Binary64.round_of_le false (by norm_num) (by norm_num [exactLimit])

theorem abs_slack_sub_le : |slack - 1 / 10 ^ 9| ≤ 1 / 10 ^ 9 / 2 ^ 53 :=
  Binary64.abs_roundMagnitude_sub_le (Binary64.leastNormal_le.trans (by norm_num))

theorem slack_mul_le (hq : 0 ≤ q) : slack * q ≤ (1 / 10 ^ 9 + 1 / 10 ^ 9 / 2 ^ 53) * q :=
  mul_le_mul_of_nonneg_right (by linarith [(abs_le.mp abs_slack_sub_le).right]) hq

theorem le_slack_mul (hq : 0 ≤ q) : (1 / 10 ^ 9 - 1 / 10 ^ 9 / 2 ^ 53) * q ≤ slack * q :=
  mul_le_mul_of_nonneg_right (by linarith [(abs_le.mp abs_slack_sub_le).left]) hq

-- What is compared is within the range, so all roundings are roundings of magnitudes.
theorem isMultiple_finite (negative : Bool) (hp : 0 ≤ p) (hq : 0 < q) (h : p / q ≤ exactLimit) :
    let r := roundMagnitude (p / q)
    isMultiple (.finite negative p) (.finite false q) =
      decide (roundMagnitude (remoteness r) ≤ roundMagnitude (slack * max r 1)) := by
  intro r
  have hpq : 0 ≤ p / q := div_nonneg hp hq.le
  have hr0 : 0 ≤ r := Binary64.roundMagnitude_nonneg hpq
  have hr : r ≤ exactLimit := Binary64.roundMagnitude_le_exactLimit hpq h
  have hone : (1 : Rat) ≤ exactLimit := by norm_num [exactLimit]
  have hs := abs_le.mp abs_slack_sub_le
  have hdiv : (Binary64.finite negative p).div (.finite false q) = .finite negative r := by
    simp only [Binary64.div, if_neg hq.ne', Bool.bne_false]
    exact Binary64.round_of_le negative hpq h
  have hwhole : (Binary64.finite negative r).roundWhole = .finite negative (round r) := by
    rw [Binary64.roundWhole, roundHalfAway_eq_round hr0]
  have hsub : ((Binary64.finite negative r).sub (.finite negative (round r))).abs =
      .finite false (roundMagnitude (remoteness r)) := by
    refine Binary64.abs_sub_finite negative ((remoteness_le_half r).trans ?_)
    linarith
  have hmax : (Binary64.finite negative r).abs.numMax (.ofInt 1) = .finite false (max r 1) := by
    rw [show Binary64.ofInt 1 = .finite false (1 : Nat) from Binary64.ofInt_natCast (by decide),
      Binary64.abs, Binary64.numMax_finite, Nat.cast_one]
  have hmul : tolerance.mul (.finite false (max r 1)) =
      .finite false (roundMagnitude (slack * max r 1)) := by
    have hm : max r 1 ≤ exactLimit := max_le hr hone
    rw [tolerance_eq, Binary64.mul]
    refine Binary64.round_of_le _ (mul_nonneg (by linarith) (by positivity)) ?_
    calc slack * max r 1 ≤ 1 * max r 1 := mul_le_mul_of_nonneg_right (by linarith) (by positivity)
      _ ≤ exactLimit := by rwa [one_mul]
  simp only [isMultiple, hdiv, hwhole, hsub, hmax, hmul]
  exact Binary64.numLe_of_value? rfl rfl

section Tolerance

-- The quotient, the tolerance, their product and the distance are each rounded by one part in `2 ^ 53` at
-- most, so all errors together are far below one part in a million of the tolerance.
variable {r : Rat} (hr : |r - q| ≤ q / 2 ^ 53)

include hr

theorem remoteness_le_slack (h : 1000001000 * remoteness q ≤ max q 1) :
    remoteness r ≤ slack * max r 1 := by
  have hm := (abs_le.mp ((abs_max_sub_max_le_abs r q 1).trans hr)).left
  have hd := remoteness_le_add r q
  have hq := le_max_left q 1
  have hone := le_max_right q 1
  calc remoteness r ≤ max q 1 / 1000001000 + max q 1 / 2 ^ 53 := by linarith
    _ ≤ (1 / 10 ^ 9 - 1 / 10 ^ 9 / 2 ^ 53) * max r 1 := by linarith
    _ ≤ slack * max r 1 := le_slack_mul (by positivity)

theorem slack_lt_remoteness (h : max q 1 < 999999000 * remoteness q) :
    roundMagnitude (slack * max r 1) < roundMagnitude (remoteness r) := by
  have hm := (abs_le.mp ((abs_max_sub_max_le_abs r q 1).trans hr)).right
  have hd := remoteness_le_add q r
  rw [abs_sub_comm] at hd
  have hq := le_max_left q 1
  have hone := le_max_right q 1
  have hone' := le_max_right r 1
  have hle := slack_mul_le (q := max r 1) (by positivity)
  have hge := le_slack_mul (q := max r 1) (by positivity)
  -- Neither of the two magnitudes is too small to be rounded like this.
  have hmin := Binary64.leastNormal_le
  have hl := abs_le.mp (Binary64.abs_roundMagnitude_sub_le (q := slack * max r 1) (by linarith))
  have hu := abs_le.mp (Binary64.abs_roundMagnitude_sub_le (q := remoteness r) (by linarith))
  calc roundMagnitude (slack * max r 1)
      ≤ slack * max r 1 + slack * max r 1 / 2 ^ 53 := by linarith
    _ < remoteness r - remoteness r / 2 ^ 53 := by linarith
    _ ≤ roundMagnitude (remoteness r) := by linarith

end Tolerance

section Integers

variable (hd : 0 < d)

include hd

theorem abs_quotient_sub_le (hl : d ≤ exactLimit) :
    |roundMagnitude (n / d) - n / d| ≤ (n / d : Rat) / 2 ^ 53 := by
  obtain rfl | hn := Nat.eq_zero_or_pos n
  case inl =>
    have hz : roundMagnitude 0 = 0 := Binary64.roundMagnitude_natCast (n := 0) (Nat.zero_le _)
    simp [hz]
  case inr =>
    refine Binary64.abs_roundMagnitude_sub_le (Binary64.leastNormal_le.trans ?_)
    have hl' : (d : Rat) ≤ 2 ^ 64 := by
      exact_mod_cast hl.trans (by decide)
    exact div_le_div₀ (Nat.cast_nonneg _) (Nat.one_le_cast.mpr hn) (Nat.cast_pos.mpr hd) hl'

theorem max_quotient (n : Nat) : max (n / d : Rat) 1 = (max n d : Nat) / d := by
  have hd : (0 : Rat) < d := Nat.cast_pos.mpr hd
  rw [Nat.cast_max, ← max_div_div_right hd.le, div_self hd.ne']

theorem quotient_le (hn : n ≤ exactLimit) : (n / d : Rat) ≤ exactLimit := by
  have hn : (n : Rat) ≤ exactLimit := Nat.cast_le.mpr hn
  exact (div_le_self (Nat.cast_nonneg n) (Nat.one_le_cast.mpr hd)).trans hn

variable (hl : d ≤ exactLimit) (hn : n ≤ exactLimit) (negative : Bool)

include hl hn

theorem isMultiple_of_offset_le (h : 1000001000 * offset d n ≤ max n d) :
    isMultiple (.finite negative n) (.finite false d) = true := by
  have hd' : (0 : Rat) < d := Nat.cast_pos.mpr hd
  rw [isMultiple_finite negative (Nat.cast_nonneg n) hd' (quotient_le hd hn), decide_eq_true_eq]
  refine Binary64.roundMagnitude_mono (abs_nonneg _) (remoteness_le_slack (abs_quotient_sub_le hd hl) ?_)
  rw [remoteness_div, max_quotient hd, ← mul_div_assoc, div_le_div_iff_of_pos_right hd']
  exact_mod_cast h

theorem isMultiple_eq_false (h : max n d < 999999000 * offset d n) :
    isMultiple (.finite negative n) (.finite false d) = false := by
  have hd' : (0 : Rat) < d := Nat.cast_pos.mpr hd
  rw [isMultiple_finite negative (Nat.cast_nonneg n) hd' (quotient_le hd hn), decide_eq_false_iff_not, not_le]
  refine slack_lt_remoteness (abs_quotient_sub_le hd hl) ?_
  rw [remoteness_div, max_quotient hd, ← mul_div_assoc, div_lt_div_iff_of_pos_right hd']
  exact_mod_cast h

end Integers

end Rule

namespace Validator

open Binary64 (exactLimit)

-- The validator for multiples of the first integer decides whether the second one is a multiple.
def DecidesDivisibility (d : Nat) (x : Int) : Prop :=
  (multipleOf (.integer d)).isValid (.ofInt x) = true ↔ (d : Int) ∣ x

section Integers

variable {d : Nat} {x : Int} (hd : 0 < d) (hl : d ≤ exactLimit) (hx : x.natAbs ≤ exactLimit)

include hd hl hx

theorem isValid_multipleOf_ofInt : (multipleOf (.integer d)).isValid (.ofInt x) =
    Rule.isMultiple (.finite (x < 0) x.natAbs) (.finite false d) := by
  have hp : (Binary64.ofInt 0).numLt (Number.integer d).toBinary64 = true :=
    Binary64.numLt_ofInt_of_lt (.inl (by decide)) (Int.natCast_pos.mpr hd)
  have hh : (Rule.multipleOf (.integer d)).holds (.ofInt x) =
      Rule.isMultiple (.ofInt x) (.ofInt d) := rfl
  rw [multipleOf, if_pos hp, isValid_rule_ofInt, hh, Binary64.ofInt_of_natAbs_le hx,
    Binary64.ofInt_natCast hl]

theorem isValid_multipleOf_of_offset_le (h : 1000001000 * Rule.offset d x.natAbs ≤ max x.natAbs d) :
    (multipleOf (.integer d)).isValid (.ofInt x) = true := by
  rw [isValid_multipleOf_ofInt hd hl hx]
  exact Rule.isMultiple_of_offset_le hd hl hx _ h

theorem isValid_multipleOf_eq_false (h : max x.natAbs d < 999999000 * Rule.offset d x.natAbs) :
    (multipleOf (.integer d)).isValid (.ofInt x) = false := by
  rw [isValid_multipleOf_ofInt hd hl hx]
  exact Rule.isMultiple_eq_false hd hl hx _ h

-- An integer is told from the multiples of another one if a billion times its distance from these is more
-- than it and the other one are.
theorem decidesDivisibility_of_offset :
    let close := Rule.offset d x.natAbs
    let scale := max x.natAbs d
    ((d : Int) ∣ x ∨ scale < 999999000 * close → DecidesDivisibility d x) ∧
      (¬ (d : Int) ∣ x ∧ 1000001000 * close ≤ scale → ¬ DecidesDivisibility d x) ∧
      (scale < 999999000 → DecidesDivisibility d x) := by
  intro close scale
  have hdvd : (d : Int) ∣ x ↔ d ∣ x.natAbs := Int.natCast_dvd
  have hmultiple (h : (d : Int) ∣ x) : DecidesDivisibility d x := by
    have ho : 1000001000 * close ≤ scale := by simp [close, Rule.offset_eq_zero (hdvd.mp h)]
    exact iff_of_true (isValid_multipleOf_of_offset_le hd hl hx ho) h
  have hapart (h : scale < 999999000 * close) : DecidesDivisibility d x := by
    have hc : close ≠ 0 := by omega
    have hn : ¬ (d : Int) ∣ x := fun hm => hc (Rule.offset_eq_zero (hdvd.mp hm))
    exact iff_of_false (Bool.eq_false_iff.mp (isValid_multipleOf_eq_false hd hl hx h)) hn
  refine ⟨fun h => h.elim hmultiple hapart, fun ⟨hn, h⟩ hiff => ?_, fun h => ?_⟩
  case refine_1 => exact hn (hiff.mp (isValid_multipleOf_of_offset_le hd hl hx h))
  case refine_2 =>
    by_cases hm : (d : Int) ∣ x
    case pos => exact hmultiple hm
    case neg =>
      have hc : 0 < close := Rule.offset_pos hd (hdvd.not.mp hm)
      exact hapart (by omega)

end Integers

-- Of such an amount in cents half a unit is noticed, but no single cent.
theorem decidesDivisibility_cents :
    let half := 12345678950
    let cent := 12345678901
    (0 < 100 ∧ 100 ≤ exactLimit ∧ Int.natAbs half ≤ exactLimit ∧ Int.natAbs cent ≤ exactLimit) ∧
      DecidesDivisibility 100 half ∧ ¬ DecidesDivisibility 100 cent := by
  intro half cent
  have hd : 0 < 100 := by decide
  have hl : 100 ≤ exactLimit := by decide
  have hhalf : half.natAbs ≤ exactLimit := by decide
  have hcent : cent.natAbs ≤ exactLimit := by decide
  refine ⟨⟨hd, hl, hhalf, hcent⟩, ?_, ?_⟩
  case refine_1 => exact (decidesDivisibility_of_offset hd hl hhalf).left (.inr (by decide))
  case refine_2 => exact (decidesDivisibility_of_offset hd hl hcent).right.left (by decide)

-- The greater an odd number is, the closer it is to an even one, relative to itself.
theorem not_decidesDivisibility_odd :
    (multipleOf (.integer 2)).isValid (.ofInt 1000000001) = true ∧
      ¬ DecidesDivisibility 2 1000000001 := by
  have h : (multipleOf (.integer 2)).isValid (.ofInt 1000000001) = true := by decide +kernel
  exact ⟨h, fun hiff => absurd (hiff.mp h) (by decide)⟩

end Validator

end JsonSchema

import JsonSchema.Proofs.Binary64.Order

namespace JsonSchema.Binary64

-- The largest power of two up to which all integers are numbers of the format.
def exactLimit : Nat := 9007199254740992

theorem roundHalfEven_intCast (m : Int) : roundHalfEven m = m := by
  have h : (m : Rat) - m < 1 / 2 := by
    rw [Rat.sub_self]
    decide +kernel
  simp only [roundHalfEven, Rat.floor_intCast, if_pos h]

theorem unit_ne_zero (k : Int) : (2 : Rat) ^ k ≠ 0 :=
  (Rat.ne_of_lt (Rat.zpow_pos (by decide))).symm

theorem roundMagnitude_of_multiple {q : Rat} {m : Int} (h : q = m * (2 : Rat) ^ spacing q) :
    roundMagnitude q = q := by
  have hm : q / (2 : Rat) ^ spacing q = m := by
    conv => lhs; lhs; rw [h]
    exact Rat.mul_div_cancel (unit_ne_zero _)
  simp only [roundMagnitude, hm, roundHalfEven_intCast]
  exact h.symm

theorem floorLog2_natCast {n : Nat} (h : n ≠ 0) : floorLog2 n = n.log2 := by
  have hp : (2 : Rat) ^ (n.log2 : Int) ≤ n := by
    have hl : ((2 ^ n.log2 : Nat) : Rat) ≤ n := Rat.natCast_le_natCast.mpr (Nat.log2_self_le h)
    rw [Rat.natCast_pow] at hl
    rw [Rat.zpow_natCast]
    exact hl
  have hk : ((n : Rat).num.natAbs.log2 : Int) - (n : Rat).den.log2 = n.log2 := by
    have h1 : Nat.log2 1 = 0 := by decide
    simp [h1]
  unfold floorLog2
  rw [hk]
  exact if_pos hp

theorem log2_le_of_le_exactLimit {n : Nat} (h : n ≤ exactLimit) (hn : n ≠ exactLimit) (h0 : n ≠ 0) :
    n.log2 ≤ 52 := by
  apply Nat.le_of_lt_succ
  rw [Nat.log2_lt h0]
  have : exactLimit = 2 ^ 53 := by decide
  omega

theorem roundMagnitude_natCast {n : Nat} (h : n ≤ exactLimit) :
    roundMagnitude n = n := by
  by_cases h0 : n = 0
  case pos =>
    subst h0
    apply roundMagnitude_of_multiple (m := 0)
    simp
  case neg =>
    have hs : spacing n = max ((n.log2 : Int) - 52) (-1074) := by
      simp [spacing, h0, floorLog2_natCast h0]
    by_cases hn : n = exactLimit
    case pos =>
      subst hn
      apply roundMagnitude_of_multiple (m := 4503599627370496)
      have hl : exactLimit.log2 = 53 := by decide
      simp only [hs, hl]
      decide +kernel
    case neg =>
      have hl := log2_le_of_le_exactLimit h hn h0
      obtain ⟨k, hk⟩ : ∃ k : Nat, (52 : Int) - n.log2 = k := ⟨52 - n.log2, by omega⟩
      apply roundMagnitude_of_multiple (m := n * 2 ^ k)
      have hsk : spacing n = -(k : Int) := by omega
      have hu : (2 : Rat) ^ k ≠ 0 := (Rat.ne_of_lt (Rat.pow_pos (by decide))).symm
      have hc : ((n * 2 ^ k : Int) : Rat) = n * 2 ^ k := by
        rw [Rat.intCast_mul, Rat.intCast_pow, Rat.intCast_natCast]
        rfl
      rw [hsk, Rat.zpow_neg, Rat.zpow_natCast, hc, Rat.mul_assoc, Rat.mul_inv_cancel _ hu, Rat.mul_one]

theorem natCast_lt_of_le_exactLimit {n : Nat} (h : n ≤ exactLimit) :
    (n : Rat) < (2 : Rat) ^ (1024 : Nat) := by
  have he : exactLimit = 2 ^ 53 := by decide
  have hp {k : Nat} (hk : 53 < k) : (n : Rat) < (2 : Rat) ^ k := by
    have hn := Nat.lt_of_le_of_lt (he ▸ h) (Nat.pow_lt_pow_right Nat.one_lt_two hk)
    simpa using Rat.natCast_lt_natCast.mpr hn
  exact hp (by decide)

theorem round_natCast (negative : Bool) {n : Nat} (h : n ≤ exactLimit) :
    round negative n = .finite negative n := by
  rw [round, roundMagnitude_natCast h]
  exact if_pos (natCast_lt_of_le_exactLimit h)

theorem ofInt_of_natAbs_le {n : Int} (h : n.natAbs ≤ exactLimit) : ofInt n = .finite (n < 0) n.natAbs := by
  rw [ofInt, ofRat]
  by_cases hn : n < 0
  case pos =>
    have hc : -(n : Rat) = n.natAbs := by
      rw [← Rat.intCast_natCast, Int.ofNat_natAbs_of_nonpos (Int.le_of_lt hn), Rat.intCast_neg]
    rw [if_pos (Rat.intCast_neg_iff.mpr hn), hc, round_natCast true h, decide_eq_true hn]
  case neg =>
    have hc : (n : Rat) = n.natAbs := by
      rw [← Rat.intCast_natCast, Int.natAbs_of_nonneg (Int.not_lt.mp hn)]
    rw [if_neg (mt Rat.intCast_neg_iff.mp hn), hc, round_natCast false h, decide_eq_false hn]

theorem ofInt_natCast {n : Nat} (h : n ≤ exactLimit) : ofInt n = .finite false n := by
  simpa [Int.not_lt.mpr (Int.natCast_nonneg n)] using ofInt_of_natAbs_le (n := n) h

theorem value?_ofInt {n : Int} (h : n.natAbs ≤ exactLimit) : (ofInt n).value? = some (n : Rat) := by
  rw [ofInt_of_natAbs_le h, ← Rat.intCast_natCast]
  by_cases hn : n < 0
  case pos =>
    rw [decide_eq_true hn, value?, Int.ofNat_natAbs_of_nonpos (Int.le_of_lt hn), Rat.intCast_neg, Rat.neg_neg]
  case neg => rw [decide_eq_false hn, value?, Int.natAbs_of_nonneg (Int.not_lt.mp hn)]

theorem numLt_ofInt_of_natAbs_le {m n : Int} (hm : m.natAbs ≤ exactLimit) (hn : n.natAbs ≤ exactLimit) :
    (ofInt m).numLt (ofInt n) = decide (m < n) := by
  rw [numLt_of_value? (value?_ofInt hm) (value?_ofInt hn), decide_eq_decide, Rat.intCast_lt_intCast]

theorem numLt_ofInt {m n : Nat} (hm : m ≤ exactLimit) (hn : n ≤ exactLimit) :
    (ofInt m).numLt (ofInt n) = decide (m < n) := by
  rw [numLt_ofInt_of_natAbs_le (m := m) (n := n) hm hn, decide_eq_decide, Int.ofNat_lt]

end JsonSchema.Binary64

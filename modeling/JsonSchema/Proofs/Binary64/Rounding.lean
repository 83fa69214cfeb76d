import JsonSchema.Proofs.Binary64.Integer
import JsonSchema.Proofs.Binary64.Order
import Mathlib.Algebra.Order.Archimedean.Basic
import Mathlib.Algebra.Order.Round
import Mathlib.Data.Rat.Floor
import Mathlib.Tactic.Linarith
import Mathlib.Tactic.NormNum
import Mathlib.Tactic.Positivity
import Mathlib.Tactic.Ring

namespace JsonSchema.Binary64

variable {p q : Rat}

theorem roundHalfEven_cases (q : Rat) :
    roundHalfEven q = ⌊q⌋ ∧ Int.fract q ≤ 1 / 2 ∨ roundHalfEven q = ⌊q⌋ + 1 ∧ 1 / 2 ≤ Int.fract q := by
  have hb : q.floor = ⌊q⌋ := rfl
  simp only [roundHalfEven, hb]
  split_ifs with hl hg
  case pos     => exact .inl ⟨rfl, hl.le⟩
  case pos     => exact .inr ⟨rfl, hg.le⟩
  case pos     => exact .inl ⟨rfl, not_lt.mp hg⟩
  case neg     => exact .inr ⟨rfl, not_lt.mp hl⟩

theorem roundHalfEven_mono (h : p ≤ q) : roundHalfEven p ≤ roundHalfEven q := by
  obtain rfl | hlt := h.eq_or_lt
  case inl => exact le_refl _
  case inr =>
    have hfloor : ⌊p⌋ ≤ ⌊q⌋ := Int.floor_le_floor h
    obtain ⟨hp, _⟩ | ⟨hp, hup⟩ := roundHalfEven_cases p <;>
      obtain ⟨hq, hdown⟩ | ⟨hq, _⟩ := roundHalfEven_cases q <;> rw [hp, hq]
    case inr.inl =>
      -- With equal floors, `p` would be the greater of the two.
      refine Int.add_one_le_of_lt (lt_of_le_of_ne hfloor fun he => ?_)
      have hfract : Int.fract p < Int.fract q := by
        rw [Int.fract, Int.fract, he]
        exact sub_lt_sub_right hlt _
      linarith
    all_goals omega

theorem abs_roundHalfEven_sub_le (q : Rat) : |(roundHalfEven q : Rat) - q| ≤ 1 / 2 := by
  have hq := Int.floor_add_fract q
  obtain ⟨hr, hf⟩ | ⟨hr, hf⟩ := roundHalfEven_cases q <;> rw [hr, abs_le]
  case inl => constructor <;> linarith [Int.fract_nonneg q]
  case inr =>
    push_cast
    constructor <;> linarith [Int.fract_lt_one q]

theorem two_pow_log2_le {n : Nat} (h : n ≠ 0) : (2 : Rat) ^ n.log2 ≤ n := by
  exact_mod_cast Nat.log2_self_le h

theorem lt_two_pow_log2 (n : Nat) : (n : Rat) < 2 ^ (n.log2 + 1) := by
  exact_mod_cast Nat.lt_log2_self

theorem num_div_den (h : 0 < q) : (q.num.natAbs : Rat) / q.den = q := by
  rw [Nat.cast_natAbs, abs_of_pos (Rat.num_pos.mpr h), Rat.num_div_den]

theorem two_zpow_floorLog2_le (h : 0 < q) : (2 : Rat) ^ floorLog2 q ≤ q := by
  simp only [floorLog2]
  split_ifs with hk
  case pos => exact hk
  case neg =>
    have hn := two_pow_log2_le (Int.natAbs_ne_zero.mpr (Rat.num_pos.mpr h).ne')
    calc (2 : Rat) ^ ((q.num.natAbs.log2 : Int) - q.den.log2 - 1)
        = 2 ^ q.num.natAbs.log2 / 2 ^ (q.den.log2 + 1) := by
          rw [sub_sub, zpow_sub₀ two_ne_zero]
          norm_cast
      _ ≤ q.num.natAbs / q.den :=
          div_le_div₀ (Nat.cast_nonneg _) hn (Nat.cast_pos.mpr q.den_pos) (lt_two_pow_log2 _).le
      _ = q := num_div_den h

theorem lt_two_zpow_floorLog2 (h : 0 < q) : q < (2 : Rat) ^ (floorLog2 q + 1) := by
  simp only [floorLog2]
  split_ifs with hk
  case neg => simpa using hk
  case pos =>
    calc q = q.num.natAbs / q.den := (num_div_den h).symm
      _ < 2 ^ (q.num.natAbs.log2 + 1) / 2 ^ q.den.log2 :=
          div_lt_div₀ (lt_two_pow_log2 _) (two_pow_log2_le q.den_ne_zero) (by positivity) (by positivity)
      _ = (2 : Rat) ^ ((q.num.natAbs.log2 : Int) - q.den.log2 + 1) := by
          rw [sub_add_eq_add_sub, zpow_sub₀ two_ne_zero]
          norm_cast

theorem floorLog2_mono (hp : 0 < p) (h : p ≤ q) : floorLog2 p ≤ floorLog2 q := by
  have hlt : (2 : Rat) ^ floorLog2 p < 2 ^ (floorLog2 q + 1) :=
    (two_zpow_floorLog2_le hp).trans_lt (h.trans_lt (lt_two_zpow_floorLog2 (hp.trans_le h)))
  exact Int.le_of_lt_add_one ((zpow_lt_zpow_iff_right₀ one_lt_two).mp hlt)

theorem le_spacing (q : Rat) : -1074 ≤ spacing q := by
  unfold spacing
  split
  case isTrue  => exact le_refl _
  case isFalse => exact le_max_right _ _

theorem spacing_of_pos (h : 0 < q) : spacing q = max (floorLog2 q - 52) (-1074) :=
  if_neg h.ne'

theorem spacing_mono (hp : 0 ≤ p) (h : p ≤ q) : spacing p ≤ spacing q := by
  obtain rfl | hp := hp.eq_or_lt
  case inl => exact le_spacing q
  case inr =>
    rw [spacing_of_pos hp, spacing_of_pos (hp.trans_le h)]
    have := floorLog2_mono hp h
    omega

theorem unit_pos (q : Rat) : 0 < (2 : Rat) ^ spacing q :=
  zpow_pos two_pos _

theorem roundMagnitude_eq (q : Rat) :
    roundMagnitude q = roundHalfEven (q / 2 ^ spacing q) * 2 ^ spacing q :=
  rfl

theorem roundMagnitude_le {m : Int} (h : q ≤ m * 2 ^ spacing q) :
    roundMagnitude q ≤ m * 2 ^ spacing q := by
  have hm := roundHalfEven_mono ((div_le_iff₀ (unit_pos q)).mpr h)
  rw [roundHalfEven_intCast] at hm
  exact mul_le_mul_of_nonneg_right (Int.cast_le.mpr hm) (unit_pos q).le

theorem le_roundMagnitude {m : Int} (h : m * 2 ^ spacing q ≤ q) :
    m * 2 ^ spacing q ≤ roundMagnitude q := by
  have hm := roundHalfEven_mono ((le_div_iff₀ (unit_pos q)).mpr h)
  rw [roundHalfEven_intCast] at hm
  exact mul_le_mul_of_nonneg_right (Int.cast_le.mpr hm) (unit_pos q).le

theorem roundMagnitude_nonneg (h : 0 ≤ q) : 0 ≤ roundMagnitude q := by
  have hz := le_roundMagnitude (q := q) (m := 0) (by simpa using h)
  simpa using hz

-- Where the distance between neighbours changes, a power of two lies between the magnitudes, and it is a
-- multiple of both distances.
theorem roundMagnitude_mono (hp : 0 ≤ p) (h : p ≤ q) : roundMagnitude p ≤ roundMagnitude q := by
  obtain he | hlt := (spacing_mono hp h).eq_or_lt
  case inl =>
    rw [roundMagnitude_eq, roundMagnitude_eq, he]
    have hr := roundHalfEven_mono (div_le_div_of_nonneg_right h (unit_pos q).le)
    exact mul_le_mul_of_nonneg_right (Int.cast_le.mpr hr) (unit_pos q).le
  case inr =>
    have hq : 0 < q := by
      refine (hp.trans h).lt_of_ne fun hq => ?_
      have hz : spacing 0 = -1074 := if_pos rfl
      exact absurd (hq ▸ hlt) (hz ▸ (le_spacing p).not_gt)
    have hs : spacing q = floorLog2 q - 52 := by
      have := le_spacing p
      have := spacing_of_pos hq
      omega
    obtain ⟨k, hk⟩ : ∃ k : Nat, floorLog2 q = spacing p + k := ⟨(floorLog2 q - spacing p).toNat, by omega⟩
    have hpower : (2 : Rat) ^ floorLog2 q = ((2 ^ k : Int) : Rat) * 2 ^ spacing p := by
      rw [hk, zpow_add₀ two_ne_zero, mul_comm]
      norm_cast
    have hpower' : (2 : Rat) ^ floorLog2 q = ((2 ^ 52 : Int) : Rat) * 2 ^ spacing q := by
      rw [hs, zpow_sub₀ two_ne_zero]
      push_cast
      ring
    have hle : p ≤ 2 ^ floorLog2 q := by
      obtain rfl | hp := hp.eq_or_lt
      case inl => exact (zpow_pos two_pos _).le
      case inr =>
        have := spacing_of_pos hp
        exact (lt_two_zpow_floorLog2 hp).le.trans (zpow_le_zpow_right₀ one_le_two (by omega))
    calc roundMagnitude p ≤ 2 ^ floorLog2 q := by
          rw [hpower] at hle ⊢
          exact roundMagnitude_le hle
      _ ≤ roundMagnitude q := by
          have hge := two_zpow_floorLog2_le hq
          rw [hpower'] at hge ⊢
          exact le_roundMagnitude hge

theorem abs_roundMagnitude_sub_le (h : (2 : Rat) ^ (-1022 : Int) ≤ q) :
    |roundMagnitude q - q| ≤ q / 2 ^ 53 := by
  have hq : 0 < q := (zpow_pos two_pos _).trans_le h
  have hs : spacing q = floorLog2 q - 52 := by
    have hlt := (zpow_lt_zpow_iff_right₀ one_lt_two).mp (h.trans_lt (lt_two_zpow_floorLog2 hq))
    have := spacing_of_pos hq
    omega
  have hu : (2 : Rat) ^ spacing q ≤ q / 2 ^ 52 := by
    rw [hs, zpow_sub₀ two_ne_zero]
    exact div_le_div_of_nonneg_right (two_zpow_floorLog2_le hq) (by positivity)
  calc |roundMagnitude q - q|
      = |(roundHalfEven (q / 2 ^ spacing q) : Rat) - q / 2 ^ spacing q| * 2 ^ spacing q := by
        rw [roundMagnitude_eq, ← abs_of_pos (unit_pos q), ← abs_mul, sub_mul, abs_of_pos (unit_pos q),
          div_mul_cancel₀ _ (unit_pos q).ne']
    _ ≤ 1 / 2 * (q / 2 ^ 52) :=
        mul_le_mul (abs_roundHalfEven_sub_le _) hu (unit_pos q).le (by norm_num)
    _ = q / 2 ^ 53 := by ring

theorem leastNormal_le : (2 : Rat) ^ (-1022 : Int) ≤ 1 / 2 ^ 64 :=
  calc (2 : Rat) ^ (-1022 : Int) ≤ 2 ^ (-64 : Int) := zpow_le_zpow_right₀ one_le_two (by decide)
    _ = 1 / 2 ^ 64 := by norm_num

theorem numLe_round_false (hp : 0 ≤ p) (h : p ≤ q) : (round false p).numLe (round false q) = true := by
  have hr := roundMagnitude_mono hp h
  simp only [round]
  split_ifs with hpl hql hql
  case pos => rw [numLe_of_value? rfl rfl, decide_eq_true hr]
  case pos => exact absurd (hr.trans_lt hql) hpl
  all_goals rfl

theorem numLe_round_true (hp : 0 ≤ p) (h : p ≤ q) : (round true q).numLe (round true p) = true := by
  have hr := roundMagnitude_mono hp h
  simp only [round]
  split_ifs with hql hpl hpl
  case pos => rw [numLe_of_value? rfl rfl, decide_eq_true (neg_le_neg hr)]
  case neg => exact absurd (hr.trans_lt hql) hpl
  all_goals rfl

theorem numLe_round_true_false (hp : 0 ≤ p) (hq : 0 ≤ q) :
    (round true p).numLe (round false q) = true := by
  have hr : -roundMagnitude p ≤ roundMagnitude q :=
    (neg_nonpos.mpr (roundMagnitude_nonneg hp)).trans (roundMagnitude_nonneg hq)
  simp only [round]
  split_ifs
  · rw [numLe_of_value? rfl rfl, decide_eq_true hr]
  all_goals rfl

theorem numLe_ofRat (h : p ≤ q) : (ofRat p).numLe (ofRat q) = true := by
  unfold ofRat
  split_ifs with hp hq hq
  case pos => exact numLe_round_true (neg_nonneg.mpr hq.le) (neg_le_neg h)
  case neg => exact numLe_round_true_false (neg_nonneg.mpr hp.le) (not_lt.mp hq)
  case pos => exact absurd (h.trans_lt hq) hp
  case neg => exact numLe_round_false (not_lt.mp hp) h

theorem roundMagnitude_le_exactLimit (hq : 0 ≤ q) (h : q ≤ exactLimit) : roundMagnitude q ≤ exactLimit :=
  (roundMagnitude_mono hq h).trans (roundMagnitude_natCast (le_refl _)).le

theorem round_of_le (negative : Bool) (hq : 0 ≤ q) (h : q ≤ exactLimit) :
    round negative q = .finite negative (roundMagnitude q) :=
  if_pos ((roundMagnitude_le_exactLimit hq h).trans_lt (natCast_lt_of_le_exactLimit (le_refl _)))

theorem abs_ofRat (h : |q| ≤ exactLimit) : (ofRat q).abs = .finite false (roundMagnitude |q|) := by
  unfold ofRat
  split_ifs with hq
  case pos =>
    rw [abs_of_neg hq] at h ⊢
    rw [round_of_le true (neg_nonneg.mpr hq.le) h, Binary64.abs]
  case neg =>
    rw [abs_of_nonneg (not_lt.mp hq)] at h ⊢
    rw [round_of_le false (not_lt.mp hq) h, Binary64.abs]

theorem abs_sub_finite (negative : Bool) (h : |p - q| ≤ exactLimit) :
    ((finite negative p).sub (finite negative q)).abs = .finite false (roundMagnitude |p - q|) := by
  by_cases he : p = q
  case pos =>
    have hz : roundMagnitude 0 = 0 := roundMagnitude_natCast (n := 0) (Nat.zero_le _)
    subst he
    cases negative <;> simp [sub, value?, Binary64.abs, hz]
  case neg =>
    cases negative
    case false => simp [sub, value?, he, abs_ofRat h]
    case true  =>
      rw [abs_sub_comm] at h ⊢
      simp [sub, value?, he, neg_add_eq_sub, abs_ofRat h]

theorem numMax_finite (p q : Rat) : (finite false p).numMax (finite false q) = .finite false (max p q) := by
  simp only [numMax, numLt, value?, decide_eq_true_eq]
  split_ifs with h
  case pos => rw [max_eq_right h.le]
  case neg => rw [max_eq_left (not_lt.mp h)]

variable {a b : Int}

theorem numLe_ofInt_of_le (h : a ≤ b) : (ofInt a).numLe (ofInt b) = true :=
  numLe_ofRat (Int.cast_le.mpr h)

theorem numLt_ofInt_of_lt (hs : a.natAbs < exactLimit ∨ b.natAbs < exactLimit) (h : a < b) :
    (ofInt a).numLt (ofInt b) = true := by
  cases hs
  case inl ha =>
    have hn : (ofInt a).numLt (ofInt (a + 1)) = true := by
      rw [numLt_ofInt_of_natAbs_le ha.le (by omega), decide_eq_true (Int.lt_succ a)]
    exact numLt_of_numLt_of_numLe hn (numLe_ofInt_of_le h)
  case inr hb =>
    have hn : (ofInt (b - 1)).numLt (ofInt b) = true := by
      rw [numLt_ofInt_of_natAbs_le (by omega) hb.le, decide_eq_true (sub_one_lt b)]
    exact numLt_of_numLe_of_numLt (numLe_ofInt_of_le (Int.le_sub_one_of_lt h)) hn

theorem numEq_ofInt_self (a : Int) : (ofInt a).numEq (ofInt a) = true :=
  numEq_iff.mpr ⟨numLe_ofInt_of_le (le_refl a), numLe_ofInt_of_le (le_refl a)⟩

theorem not_numLt_of_numEq {x y : Binary64} (h : x.numEq y = true) : ¬ x.numLt y = true := by
  intro hlt
  have hle := (numLt_iff.mp hlt).right
  simp [(numEq_iff.mp h).right] at hle

theorem round_eq_of_numEq {negative : Bool} (h : (round negative p).numEq (round negative q) = true) :
    round negative p = round negative q := by
  simp only [round] at h ⊢
  split_ifs at h ⊢ <;> cases negative <;> simp_all [numEq, value?]

theorem neg_of_numEq_ofInt (h : (ofInt a).numEq (ofInt b) = true) (ha : a < 0) : b < 0 := by
  by_contra hb
  have hle := numLe_ofInt_of_le (Int.le_sub_one_of_lt ha)
  have hlt : (ofInt (0 - 1)).numLt (ofInt b) = true := numLt_ofInt_of_lt (.inl (by decide)) (by omega)
  exact not_numLt_of_numEq h (numLt_of_numLe_of_numLt hle hlt)

theorem numEq_ofInt_iff : (ofInt a).numEq (ofInt b) = true ↔ ofInt a = ofInt b := by
  constructor
  case mpr => exact fun h => h ▸ numEq_ofInt_self a
  case mp =>
    intro h
    have h' := numEq_iff.mpr (numEq_iff.mp h).symm
    have hs : a < 0 ↔ b < 0 := ⟨neg_of_numEq_ofInt h, neg_of_numEq_ofInt h'⟩
    simp only [ofInt, ofRat, Int.cast_lt_zero] at h ⊢
    by_cases ha : a < 0
    case pos =>
      rw [if_pos ha, if_pos (hs.mp ha)] at h ⊢
      exact round_eq_of_numEq h
    case neg =>
      rw [if_neg ha, if_neg (mt hs.mpr ha)] at h ⊢
      exact round_eq_of_numEq h

theorem numLe_ofInt_iff : (ofInt a).numLe (ofInt b) = true ↔ a ≤ b ∨ ofInt a = ofInt b := by
  constructor
  case mp =>
    intro h
    by_cases hab : a ≤ b
    case pos => exact .inl hab
    case neg => exact .inr (numEq_ofInt_iff.mp (numEq_iff.mpr ⟨h, numLe_ofInt_of_le (by omega)⟩))
  case mpr =>
    intro h
    cases h
    case inl h => exact numLe_ofInt_of_le h
    case inr h => exact h ▸ numLe_ofInt_of_le (le_refl a)

theorem numLt_ofInt_iff : (ofInt a).numLt (ofInt b) = true ↔ a < b ∧ ofInt a ≠ ofInt b := by
  rw [numLt_iff, ← Bool.not_eq_true, numLe_ofInt_iff, numLe_ofInt_iff, not_or, not_le, eq_comm (a := ofInt b)]
  exact ⟨And.right, fun h => ⟨.inl h.left.le, h⟩⟩

theorem numLt_ofInt_eq (a b : Int) : (ofInt a).numLt (ofInt b) = !(ofInt b).numLe (ofInt a) := by
  rw [Bool.eq_iff_iff, numLt_iff, Bool.not_eq_true', and_iff_right_iff_imp]
  intro h
  refine numLe_ofInt_of_le (le_of_not_ge fun hle => ?_)
  simp [numLe_ofInt_of_le hle] at h

theorem ofInt_inj (hs : a.natAbs < exactLimit ∨ b.natAbs < exactLimit) : ofInt a = ofInt b ↔ a = b := by
  constructor
  case mpr => exact congrArg ofInt
  case mp =>
    intro h
    by_contra hne
    cases lt_or_gt_of_ne hne
    case inl hlt => exact (numLt_ofInt_iff.mp (numLt_ofInt_of_lt hs hlt)).right h
    case inr hlt => exact (numLt_ofInt_iff.mp (numLt_ofInt_of_lt hs.symm hlt)).right h.symm

end JsonSchema.Binary64

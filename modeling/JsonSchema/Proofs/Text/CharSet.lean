import JsonSchema.Text.CharSet

namespace JsonSchema.CharSet

variable {s t : CharSet} {sets : List CharSet} {ranges rest : List (Nat × Nat)} {low high n : Nat}
  {c d : Char}

def Covers (ranges : List (Nat × Nat)) (n : Nat) : Prop := ∃ r ∈ ranges, r.1 ≤ n ∧ n ≤ r.2

structure Rising (ranges : List (Nat × Nat)) : Prop where
  apart    : ranges.Pairwise fun r r' => r.2 < r'.1
  nonempty : ∀ r ∈ ranges, r.1 ≤ r.2

theorem contains_iff : s.contains c = true ↔ Covers s.ranges c.toNat := by
  simp [contains, containsCode, Covers]

@[simp]
theorem covers_nil : ¬ Covers [] n := by simp [Covers]

@[simp]
theorem covers_cons : Covers ((low, high) :: rest) n ↔ (low ≤ n ∧ n ≤ high) ∨ Covers rest n := by
  simp [Covers]

@[simp]
theorem covers_append : Covers (ranges ++ rest) n ↔ Covers ranges n ∨ Covers rest n := by
  simp [Covers, or_and_right, exists_or]

theorem Rising.tail {r : Nat × Nat} (h : Rising (r :: rest)) : Rising rest :=
  ⟨h.apart.of_cons, fun r hr => h.nonempty r (List.mem_cons_of_mem _ hr)⟩

section Join

variable (h : ((low, high) :: ranges).Pairwise (·.1 ≤ ·.1))

include h

-- The first range begins before the others, so that where it meets the next one both are one range.
theorem covers_joinFrom : Covers (joinFrom low high ranges) n ↔ Covers ((low, high) :: ranges) n := by
  induction ranges generalizing low high with
  | nil => rfl
  | cons r rest ih =>
    obtain ⟨low', high'⟩ := r
    have ⟨hl, hp⟩ := List.pairwise_cons.mp h
    have ⟨hlow, hrest⟩ := List.forall_mem_cons.mp hl
    simp only [joinFrom]
    split
    case isTrue hm =>
      have hp : ((low, max high high') :: rest).Pairwise (·.1 ≤ ·.1) :=
        List.pairwise_cons.mpr ⟨hrest, hp.of_cons⟩
      rw [ih hp]
      simp only [covers_cons, ← or_assoc]
      exact or_congr_left (by omega)
    case isFalse => simp only [covers_cons, ih hp]

theorem rising_joinFrom (hl : low ≤ high) (hr : ∀ r ∈ ranges, r.1 ≤ r.2) :
    Rising (joinFrom low high ranges) ∧ ∀ r ∈ joinFrom low high ranges, low ≤ r.1 := by
  induction ranges generalizing low high with
  | nil => exact ⟨⟨by simp [joinFrom], by simpa [joinFrom] using hl⟩, by simp [joinFrom]⟩
  | cons r rest ih =>
    obtain ⟨low', high'⟩ := r
    have ⟨hb, hp⟩ := List.pairwise_cons.mp h
    have ⟨hlow, hrest⟩ := List.forall_mem_cons.mp hb
    have ⟨hr', hrs⟩ := List.forall_mem_cons.mp hr
    simp only [joinFrom]
    split
    case isTrue =>
      exact ih (List.pairwise_cons.mpr ⟨hrest, hp.of_cons⟩) (by omega) hrs
    case isFalse hm =>
      obtain ⟨hj, hfrom⟩ := ih hp hr' hrs
      refine ⟨⟨List.pairwise_cons.mpr ⟨fun r hr => ?apart, hj.apart⟩,
        List.forall_mem_cons.mpr ⟨hl, hj.nonempty⟩⟩,
        List.forall_mem_cons.mpr ⟨Nat.le_refl _, fun r hr => ?above⟩⟩
      case apart => have := hfrom r hr; omega
      case above => exact Nat.le_trans hlow (hfrom r hr)

end Join

theorem exists_sorted (ranges : List (Nat × Nat)) :
    ∃ sorted, (∀ r, r ∈ sorted ↔ r ∈ ranges) ∧ sorted.Pairwise (·.1 ≤ ·.1) ∧
      (ofRanges ranges).ranges = joinRanges sorted := by
  refine ⟨ranges.mergeSort fun r r' => r.1 ≤ r'.1, fun _ => List.mem_mergeSort, ?_, rfl⟩
  refine (List.pairwise_mergeSort ?trans ?total ranges).imp of_decide_eq_true
  case trans => exact fun _ _ _ => by simp only [decide_eq_true_eq]; omega
  case total => exact fun _ _ => by simp only [Bool.or_eq_true, decide_eq_true_eq]; omega

theorem covers_ofRanges : Covers (ofRanges ranges).ranges n ↔ Covers ranges n := by
  obtain ⟨sorted, hm, hp, he⟩ := exists_sorted ranges
  have hs : Covers sorted n ↔ Covers ranges n := by simp only [Covers, hm]
  rw [he, ← hs]
  cases sorted with
  | nil         => rfl
  | cons r rest => exact covers_joinFrom hp

theorem rising_ofRanges (h : ∀ r ∈ ranges, r.1 ≤ r.2) : Rising (ofRanges ranges).ranges := by
  obtain ⟨sorted, hm, hp, he⟩ := exists_sorted ranges
  have hs : ∀ r ∈ sorted, r.1 ≤ r.2 := fun r hr => h r ((hm r).mp hr)
  rw [he]
  cases sorted with
  | nil         => exact ⟨List.Pairwise.nil, by simp [joinRanges]⟩
  | cons r rest =>
    have ⟨hr, hrest⟩ := List.forall_mem_cons.mp hs
    exact (rising_joinFrom hp hr hrest).left

theorem contains_single : (single d).contains c = true ↔ c = d := by
  simp only [contains_iff, single, covers_cons, covers_nil, or_false]
  constructor
  case mp  => exact fun h => Char.toNat_inj.mp (Nat.le_antisymm h.right h.left)
  case mpr => rintro rfl; exact ⟨Nat.le_refl _, Nat.le_refl _⟩

theorem contains_unions : (unions sets).contains c = true ↔ ∃ s ∈ sets, s.contains c = true := by
  simp only [contains_iff, unions, covers_ofRanges]
  simp only [Covers, List.mem_flatMap]
  constructor
  case mp  => exact fun ⟨r, ⟨s, hs, hr⟩, hc⟩ => ⟨s, hs, r, hr, hc⟩
  case mpr => exact fun ⟨s, hs, r, hr, hc⟩ => ⟨r, ⟨s, hs, hr⟩, hc⟩

theorem covers_clip {ranges : List (Nat × Nat)} :
    Covers (clip low high ranges) n ↔ (low ≤ n ∧ n ≤ high) ∧ Covers ranges n := by
  induction ranges with
  | nil => simp [clip]
  | cons r rest ih =>
    obtain ⟨low', high'⟩ := r
    have hc : clip low high ((low', high') :: rest) =
        (if max low low' ≤ min high high' then [(max low low', min high high')] else []) ++
          clip low high rest := by
      simp only [clip, List.filterMap_cons]
      split <;> simp_all
    rw [hc, covers_append, ih, covers_cons, and_or_left]
    refine or_congr_left ?_
    split
    case isTrue  => simp only [covers_cons, covers_nil, or_false]; omega
    case isFalse => simp only [covers_nil, false_iff]; omega

theorem contains_inter :
    (inter s t).contains c = true ↔ s.contains c = true ∧ t.contains c = true := by
  simp only [contains_iff, inter, covers_ofRanges]
  have hm : Covers (s.ranges.flatMap fun r => clip r.1 r.2 t.ranges) c.toNat ↔
      ∃ r ∈ s.ranges, Covers (clip r.1 r.2 t.ranges) c.toNat := by
    simp only [Covers, List.mem_flatMap]
    constructor
    case mp  => exact fun ⟨r, ⟨q, hq, hr⟩, hc⟩ => ⟨q, hq, r, hr, hc⟩
    case mpr => exact fun ⟨q, hq, r, hr, hc⟩ => ⟨r, ⟨q, hq, hr⟩, hc⟩
  rw [hm]
  simp only [covers_clip]
  constructor
  case mp  => exact fun ⟨r, hr, hs, ht⟩ => ⟨⟨r, hr, hs⟩, ht⟩
  case mpr => exact fun ⟨⟨r, hr, hs⟩, ht⟩ => ⟨r, hr, hs, ht⟩

-- Up to the last code point the gaps hold what the ranges do not. The induction is on the ranges, each of
-- which moves the beginning of the next gap behind it.
theorem covers_gaps (hr : Rising ranges) (hl : ∀ r ∈ ranges, low ≤ r.1) (hn : n ≤ high) :
    Covers (gaps low high ranges) n ↔ low ≤ n ∧ ¬ Covers ranges n := by
  induction ranges generalizing low with
  | nil =>
    simp only [gaps, covers_nil, not_false_eq_true, and_true]
    split
    case isTrue  => simp only [covers_cons, covers_nil, or_false]; omega
    case isFalse => simp only [covers_nil, false_iff]; omega
  | cons r rest ih =>
    obtain ⟨low', high'⟩ := r
    have ⟨hbefore, _⟩ := List.pairwise_cons.mp hr.apart
    have hne : low' ≤ high' := hr.nonempty (low', high') List.mem_cons_self
    have hlow : low ≤ low' := hl (low', high') List.mem_cons_self
    have hrest : Covers (gaps (high' + 1) high rest) n ↔ high' + 1 ≤ n ∧ ¬ Covers rest n :=
      ih hr.tail hbefore
    have hafter : Covers rest n → high' < n := fun ⟨q, hq, h, _⟩ => Nat.lt_of_lt_of_le (hbefore q hq) h
    simp only [gaps]
    split
    case isTrue =>
      rw [covers_cons, covers_cons, hrest, not_or]
      by_cases hc : Covers rest n
      case pos =>
        have := hafter hc
        simp only [hc, not_true_eq_false, and_false, or_false, iff_false]
        omega
      case neg =>
        simp only [hc, not_false_eq_true, and_true]
        omega
    case isFalse =>
      rw [covers_cons, hrest, not_or]
      by_cases hc : Covers rest n
      case pos => simp only [hc, not_true_eq_false, and_false]
      case neg => simp only [hc, not_false_eq_true, and_true]; omega

theorem contains_all (c : Char) : all.contains c = true := by
  have hv : c.toNat < 0xD800 ∨ (0xDFFF < c.toNat ∧ c.toNat < 0x110000) := c.valid
  simp only [contains_iff, all, lastCode, covers_cons, covers_nil, or_false]
  omega

theorem contains_compl (h : Rising s.ranges) : s.compl.contains c = true ↔ ¬ s.contains c = true := by
  have hv : c.toNat < 0xD800 ∨ (0xDFFF < c.toNat ∧ c.toNat < 0x110000) := c.valid
  rw [compl, contains_inter, and_iff_left (contains_all c), contains_iff, contains_iff,
    covers_gaps h (fun _ _ => Nat.zero_le _) (by simp only [lastCode]; omega)]
  exact and_iff_right (Nat.zero_le _)

end JsonSchema.CharSet

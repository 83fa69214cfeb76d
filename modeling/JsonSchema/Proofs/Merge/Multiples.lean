import JsonSchema.Proofs.Merge.Steps
import Mathlib.Algebra.GCDMonoid.Multiset
import Mathlib.Algebra.GCDMonoid.Nat

namespace JsonSchema

namespace Number

theorem gcd_eq (a b : Nat) : gcd a b = Nat.gcd a b := by
  fun_induction gcd a b with
  | case1 a => exact (Nat.gcd_zero_right a).symm
  | case2 a b _ ih => rw [ih, Nat.gcd_comm, ← Nat.gcd_rec, Nat.gcd_comm]

-- The quotient by the greatest common divisor is exact, so the product is the least common multiple.
theorem lcmWord?_eq {a b : Nat} (ha : 0 < a) (hb : 0 < b) :
    lcmWord? a b = if a.lcm b < wordSize then some (a.lcm b) else none := by
  have hp : a / Nat.gcd a b * b = a.lcm b := Nat.div_mul_right_comm (Nat.gcd_dvd_left a b) b
  rw [lcmWord?, if_neg (by omega), mulWord?, gcd_eq, hp]

theorem lcm?_integer {a b : Nat} (ha : 0 < a) (hb : 0 < b) :
    (integer a).lcm? (integer b) = if a.lcm b < wordSize then some (integer (a.lcm b)) else none := by
  simp only [lcm?, toNat?, Int.natCast_nonneg, if_true, Int.toNat_natCast, lcmWord?_eq ha hb]
  split <;> rfl

end Number

namespace Merge

open Number (wordSize)

variable {merge : List Json → Option Json} {m n : Nat} {ns : List Nat}

def multiple (n : Nat) : Fields := [("multipleOf", .ofNat n)]

theorem combine?_multiple (hm : 0 < m) (hw : m < wordSize) (hn : 0 < n) :
    combine? merge "multipleOf" (.ofNat m) (.ofNat n) =
      if m.lcm n < wordSize then some (.ofNat (m.lcm n)) else none := by
  have hs : (Json.ofNat m == Json.ofNat n) = ((m : Int) == (n : Int)) := rfl
  have hr : (mergeValues merge none none "multipleOf" (.ofNat m) (.ofNat n)).kept? =
      ((Number.integer m).lcm? (.integer n)).map .number := Outcome.kept?_ofOption _
  rw [combine?, hr, hs, Number.lcm?_integer hm hn]
  split
  case isTrue h =>
    obtain rfl := Int.natCast_inj.mp (beq_iff_eq.mp h)
    rw [Nat.lcm_self, if_pos hw]
  case isFalse => by_cases hl : m.lcm n < wordSize <;> simp [hl, Json.ofNat]

theorem mergeObject?_multiple (hm : 0 < m) (hw : m < wordSize) (hn : 0 < n) :
    mergeObject? merge ⟨multiple m, []⟩ (multiple n) =
      if m.lcm n < wordSize then some ⟨multiple (m.lcm n), []⟩ else none := by
  have hk : "multipleOf" ∉ ["properties", "additionalProperties"] ++ identifiers := by decide
  have h : mergeObject? merge ⟨multiple m, []⟩ (multiple n) = _ := mergeObject?_single hk _ _
  rw [h, combine?_multiple hm hw hn]
  by_cases hl : m.lcm n < wordSize <;> simp [hl, single, multiple]

-- By induction on the integers that are left. Once a least common multiple is too large, so is that of all.
theorem mergeObjects?_multiples (hm : 0 < m) (hw : m < wordSize) (hn : ∀ n ∈ ns, 0 < n) :
    mergeObjects? merge ⟨multiple m, []⟩ (ns.map multiple) =
      if (m ::ₘ (ns : Multiset Nat)).lcm < wordSize then
        some ⟨multiple (m ::ₘ (ns : Multiset Nat)).lcm, []⟩
      else none := by
  induction ns generalizing m with
  | nil => simp [mergeObjects?, hw]
  | cons n rest ih =>
    obtain ⟨hp, hr⟩ := List.forall_mem_cons.mp hn
    have hl : (m ::ₘ ((n :: rest : List Nat) : Multiset Nat)).lcm =
        (m.lcm n ::ₘ (rest : Multiset Nat)).lcm := by
      rw [← Multiset.cons_coe, Multiset.lcm_cons, Multiset.lcm_cons, Multiset.lcm_cons, ← lcm_assoc]
      rfl
    have h0 : (m.lcm n ::ₘ (rest : Multiset Nat)).lcm ≠ 0 := by
      rw [ne_eq, Multiset.lcm_eq_zero_iff, Multiset.mem_cons, not_or]
      exact ⟨(Nat.lcm_pos hm hp).ne, fun hz => Nat.lt_irrefl 0 (hr 0 hz)⟩
    rw [List.map_cons, mergeObjects?, mergeObject?_multiple hm hw hp, hl]
    by_cases hs : m.lcm n < wordSize
    case pos => rw [if_pos hs, Option.bind_some, ih (Nat.lcm_pos hm hp) hs hr]
    case neg =>
      have hle := Nat.le_of_dvd (Nat.pos_of_ne_zero h0)
        (Multiset.dvd_lcm (Multiset.mem_cons_self (m.lcm n) (rest : Multiset Nat)))
      rw [if_neg hs, Option.bind_none, if_neg (by omega)]

theorem substantial_multiples (ns : List Nat) :
    substantial ((ns.map multiple).map .object) = (ns.map multiple).map .object := by
  rw [substantial_map_object, List.filter_eq_self.mpr]
  simp [multiple]

-- The merged schema is for the multiples of the least common multiple, if a word holds it; otherwise the
-- schemas are kept, as they are.
theorem mergeAll_multiples (hne : ns ≠ []) (hn : ∀ n ∈ ns, 0 < n ∧ n < wordSize) :
    mergeAll (ns.map fun n => .object (multiple n)) =
      if (ns : Multiset Nat).lcm < wordSize then .object (multiple (ns : Multiset Nat).lcm)
      else allOf (ns.map fun n => .object (multiple n)) := by
  obtain ⟨first, rest, rfl⟩ := List.exists_cons_of_ne_nil hne
  have ⟨⟨hp, hw⟩, hr⟩ := List.forall_mem_cons.mp hn
  have hs := substantial_multiples (first :: rest)
  have hf : Fields.Sorted (multiple first) := by simp [multiple, Fields.Sorted]
  obtain ⟨levels, hb⟩ := exists_levels (((first :: rest).map multiple).map .object)
  have hm : mergeLevel? (mergeLevels? levels) _ = _ := mergeLevel?_objects hs hf
  rw [mergeObjects?_multiples hp hw fun n h => (hr n h).left, Multiset.cons_coe] at hm
  have hmap : ((first :: rest).map fun n => Json.object (multiple n)) =
      ((first :: rest).map multiple).map .object := (List.map_map ..).symm
  rw [hmap, mergeAll, conjoin, tryMerge?, hb, mergeLevels?_succ, hm, hs]
  split <;> rfl

-- A word does not hold the product of any two of these integers, but their least common multiple.
theorem mergeAll_multiples_powers :
    let powers := [3 * 2 ^ 40, 5 * 2 ^ 40, 2 ^ 60]
    (powers ≠ [] ∧ ∀ n ∈ 17 :: powers, 0 < n ∧ n < wordSize) ∧
      mergeAll (powers.map fun n => .object (multiple n)) = .object (multiple (15 * 2 ^ 60)) ∧
      mergeAll ((17 :: powers).map fun n => .object (multiple n)) =
        allOf ((17 :: powers).map fun n => .object (multiple n)) := by
  intro powers
  have hne : powers ≠ [] := by decide
  have hne' : 17 :: powers ≠ [] := by decide
  have hn : ∀ n ∈ 17 :: powers, 0 < n ∧ n < wordSize := by decide
  refine ⟨⟨hne, hn⟩, ?_, ?_⟩
  · have h := mergeAll_multiples hne (List.forall_mem_cons.mp hn).right
    rwa [show (powers : Multiset Nat).lcm = 15 * 2 ^ 60 by decide, if_pos (by decide)] at h
  · have h := mergeAll_multiples hne' hn
    rwa [if_neg (by decide)] at h

end Merge

end JsonSchema

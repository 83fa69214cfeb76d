import JsonSchema.Binary64.Basic

namespace JsonSchema.Binary64

variable {x y z : Binary64}

-- The five kinds of numbers are told apart here: those with each of the signs, and what is no number.
theorem numLe_trans (h : x.numLe y = true) (h' : y.numLe z = true) : x.numLe z = true := by
  rcases x with ⟨_ | _, p⟩ | ⟨_ | _⟩ | _ <;> rcases y with ⟨_ | _, q⟩ | ⟨_ | _⟩ | _ <;>
    simp [numLe, numLt, numEq, value?] at h <;> rcases z with ⟨_ | _, r⟩ | ⟨_ | _⟩ | _ <;>
    simp [numLe, numLt, numEq, value?] at h' ⊢ <;> grind

theorem numLe_of_not_numLt (hx : x ≠ nan) (hy : y ≠ nan) (h : x.numLt y = false) : y.numLe x = true := by
  rcases x with ⟨_ | _, p⟩ | ⟨_ | _⟩ | _ <;> rcases y with ⟨_ | _, q⟩ | ⟨_ | _⟩ | _ <;>
    simp [numLe, numLt, numEq, value?] at * <;> grind

theorem numLt_iff : x.numLt y = true ↔ x.numLe y = true ∧ y.numLe x = false := by
  rcases x with ⟨_ | _, p⟩ | ⟨_ | _⟩ | _ <;> rcases y with ⟨_ | _, q⟩ | ⟨_ | _⟩ | _ <;>
    simp [numLe, numLt, numEq, value?] <;> grind

theorem numLe_of_numLt (h : x.numLt y = true) : x.numLe y = true :=
  (numLt_iff.mp h).left

theorem numLe_refl (h : x ≠ nan) : x.numLe x = true := by
  cases hlt : x.numLt x with
  | true  => exact numLe_of_numLt hlt
  | false => exact numLe_of_not_numLt h h hlt

theorem numLt_of_numLe_of_numLt (h : x.numLe y = true) (h' : y.numLt z = true) : x.numLt z = true := by
  obtain ⟨hyz, hzy⟩ := numLt_iff.mp h'
  refine numLt_iff.mpr ⟨numLe_trans h hyz, Bool.eq_false_iff.mpr fun hzx => ?_⟩
  simp [numLe_trans hzx h] at hzy

theorem numLt_of_numLt_of_numLe (h : x.numLt y = true) (h' : y.numLe z = true) : x.numLt z = true := by
  obtain ⟨hxy, hyx⟩ := numLt_iff.mp h
  refine numLt_iff.mpr ⟨numLe_trans hxy h', Bool.eq_false_iff.mpr fun hzx => ?_⟩
  simp [numLe_trans h' hzx] at hyx

theorem numLt_of_value? {p q : Rat} (hx : x.value? = some p) (hy : y.value? = some q) :
    x.numLt y = decide (p < q) := by
  cases x <;> cases y <;> simp_all [value?, numLt]

theorem numEq_of_value? {p q : Rat} (hx : x.value? = some p) (hy : y.value? = some q) :
    x.numEq y = (p == q) := by
  cases x <;> cases y <;> simp_all [value?, numEq]

theorem numLe_of_value? {p q : Rat} (hx : x.value? = some p) (hy : y.value? = some q) :
    x.numLe y = decide (p ≤ q) := by
  rw [numLe, numLt_of_value? hx hy, numEq_of_value? hx hy, Bool.eq_iff_iff]
  simp [Rat.le_iff_lt_or_eq]

theorem numEq_iff : x.numEq y = true ↔ x.numLe y = true ∧ y.numLe x = true := by
  rcases x with ⟨_ | _, p⟩ | ⟨_ | _⟩ | _ <;> rcases y with ⟨_ | _, q⟩ | ⟨_ | _⟩ | _ <;>
    simp [numLe, numLt, numEq, value?] <;> grind

end JsonSchema.Binary64

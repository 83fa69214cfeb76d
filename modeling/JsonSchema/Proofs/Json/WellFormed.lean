import JsonSchema.Json.Lookup
import JsonSchema.Proofs.Json.Fields

namespace JsonSchema.Json

@[elab_as_elim]
theorem induct {motive : Json → Prop}
    (null   : motive .null)
    (bool   : ∀ b, motive (.bool b))
    (number : ∀ n, motive (.number n))
    (string : ∀ s, motive (.string s))
    (array  : ∀ items, (∀ j ∈ items, motive j) → motive (.array items))
    (object : ∀ fields : Fields, (∀ key j, (key, j) ∈ fields → motive j) → motive (.object fields))
    (j : Json) : motive j :=
  match j with
  | .null          => null
  | .bool b        => bool b
  | .number n      => number n
  | .string s      => string s
  | .array items   => array items fun j _ => induct null bool number string array object j
  | .object fields => object fields fun _ j _ => induct null bool number string array object j
termination_by j
decreasing_by
  case _ h => have := List.sizeOf_lt_of_mem h; simp; omega
  case _ h => have := List.sizeOf_lt_of_mem h; simp at this ⊢; omega

instance (n : Number) : Decidable n.WellFormed :=
  match n with
  | .integer n => inferInstanceAs (Decidable (Number.isWord n = true))
  | .float x   => inferInstanceAs (Decidable (x.isFinite = true))

mutual
def decidableWellFormed : (j : Json) → Decidable j.WellFormed
  | .null          => isTrue trivial
  | .bool _        => isTrue trivial
  | .number n      => inferInstanceAs (Decidable n.WellFormed)
  | .string _      => isTrue trivial
  | .array items   => decidableWellFormedItems items
  | .object fields =>
    have := decidableWellFormedFields fields
    inferInstanceAs (Decidable (fields.Pairwise (·.1 < ·.1) ∧ WellFormedFields fields))

def decidableWellFormedItems : (items : List Json) → Decidable (WellFormedItems items)
  | []        => isTrue trivial
  | j :: rest =>
    have := decidableWellFormed j
    have := decidableWellFormedItems rest
    inferInstanceAs (Decidable (j.WellFormed ∧ WellFormedItems rest))

def decidableWellFormedFields :
    (fields : List (String × Json)) → Decidable (WellFormedFields fields)
  | []             => isTrue trivial
  | (_, j) :: rest =>
    have := decidableWellFormed j
    have := decidableWellFormedFields rest
    inferInstanceAs (Decidable (j.WellFormed ∧ WellFormedFields rest))
end

instance (j : Json) : Decidable j.WellFormed := decidableWellFormed j

theorem wellFormedItems_iff {items : List Json} :
    WellFormedItems items ↔ ∀ j ∈ items, j.WellFormed := by
  induction items with
  | nil            => simp [WellFormedItems]
  | cons j rest ih => simp [WellFormedItems, ih]

theorem wellFormedFields_iff {fields : Fields} :
    WellFormedFields fields ↔ ∀ key j, (key, j) ∈ fields → j.WellFormed := by
  induction fields with
  | nil => simp [WellFormedFields]
  | cons field rest ih =>
    obtain ⟨k, i⟩ := field
    simp only [WellFormedFields, ih, List.mem_cons]
    constructor
    case mp =>
      intro ⟨hi, hr⟩ key j h
      cases h
      case inl h => cases h; exact hi
      case inr h => exact hr key j h
    case mpr => exact fun h => ⟨h k i (.inl rfl), fun key j hj => h key j (.inr hj)⟩

@[simp]
theorem wellFormed_array {items : List Json} :
    (array items).WellFormed ↔ ∀ j ∈ items, j.WellFormed := by
  rw [WellFormed, wellFormedItems_iff]

@[simp]
theorem wellFormed_object {fields : Fields} :
    (object fields).WellFormed ↔
      Fields.Sorted fields ∧ ∀ key j, (key, j) ∈ fields → j.WellFormed := by
  rw [WellFormed, wellFormedFields_iff]

section Fields

variable {fields : Fields} {key : String} {j : Json}

theorem WellFormed.get? (h : (object fields).WellFormed) (hj : Fields.get? fields key = some j) :
    j.WellFormed :=
  (wellFormed_object.mp h).right key j (Fields.mem_of_get? hj)

theorem WellFormed.insert (h : (object fields).WellFormed) (hj : j.WellFormed) :
    (object (Fields.insert key j fields)).WellFormed := by
  have ⟨hs, hf⟩ := wellFormed_object.mp h
  refine wellFormed_object.mpr ⟨hs.insert, ?_⟩
  intro k i hi
  cases Fields.mem_insert hi
  case inl hi => cases hi; exact hj
  case inr hi => exact hf k i hi

theorem WellFormed.filter (p : String × Json → Bool) (h : (object fields).WellFormed) :
    (object (fields.filter p)).WellFormed := by
  have ⟨hs, hf⟩ := wellFormed_object.mp h
  exact wellFormed_object.mpr ⟨hs.filter p, fun k i hi => hf k i (List.mem_filter.mp hi).left⟩

theorem WellFormed.erase (h : (object fields).WellFormed) :
    (object (Fields.erase key fields)).WellFormed :=
  h.filter _

theorem WellFormed.map {f : String → Json → Json} (h : (object fields).WellFormed)
    (hf : ∀ k i, (k, i) ∈ fields → (f k i).WellFormed) :
    (object (fields.map fun (k, i) => (k, f k i))).WellFormed := by
  have ⟨hs, _⟩ := wellFormed_object.mp h
  refine wellFormed_object.mpr ⟨hs.of_keys_eq (Fields.keys_map f fields), ?_⟩
  intro k i hi
  obtain ⟨⟨k, i⟩, hm, hi⟩ := List.mem_map.mp hi
  cases hi
  exact hf k i hm

theorem wellFormed_empty : (object []).WellFormed := by
  simp [Fields.Sorted]

theorem WellFormed.singleton (h : j.WellFormed) : (object [(key, j)]).WellFormed := by
  simp [Fields.Sorted, h]

end Fields

theorem WellFormed.step? {j found : Json} {token : String} (h : j.WellFormed)
    (hf : j.step? token = some found) : found.WellFormed := by
  cases j <;> simp only [Json.step?, reduceCtorEq] at hf
  case object fields => exact h.get? hf
  case array items =>
    have ⟨_, _, hi⟩ := Option.bind_eq_some_iff.mp hf
    exact wellFormed_array.mp h _ (List.mem_of_getElem? hi)

theorem WellFormed.follow? {j found : Json} {tokens : List String} (h : j.WellFormed)
    (hf : j.follow? tokens = some found) : found.WellFormed := by
  induction tokens generalizing j with
  | nil => cases hf; exact h
  | cons token rest ih =>
    have ⟨_, hc, hf⟩ := Option.bind_eq_some_iff.mp hf
    exact ih (h.step? hc) hf

end JsonSchema.Json

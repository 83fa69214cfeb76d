import JsonSchema.Json.Similarity
import JsonSchema.Proofs.Json.Similarity

namespace JsonSchema.Json

variable {j : Json} {found items left right : List Json}

theorem mem_addNew (h : j ∈ addNew found items) : j ∈ found ∨ j ∈ items := by
  induction items generalizing found with
  | nil => exact .inl h
  | cons first rest ih =>
    simp only [addNew] at h
    split at h
    case isTrue => exact (ih h).imp id (List.mem_cons_of_mem _)
    case isFalse =>
      cases ih h
      case inl h => simp at h ⊢; cases h <;> simp [*]
      case inr h => exact .inr (List.mem_cons_of_mem _ h)

theorem mem_addNew_of_mem (h : j ∈ found) : j ∈ addNew found items := by
  induction items generalizing found with
  | nil => exact h
  | cons first rest ih =>
    simp only [addNew]
    split
    case isTrue  => exact ih h
    case isFalse => exact ih (List.mem_append_left _ h)

theorem exists_mem_addNew (h : j ∈ items) :
    ∃ i ∈ addNew found items, i = j ∨ same i j = true := by
  induction items generalizing found with
  | nil => simp at h
  | cons first rest ih =>
    simp only [addNew]
    cases List.mem_cons.mp h
    case inr h => split <;> exact ih h
    case inl h =>
      subst h
      split
      case isTrue hm =>
        obtain ⟨i, hi, hs⟩ := List.any_eq_true.mp hm
        exact ⟨i, mem_addNew_of_mem hi, .inr hs⟩
      case isFalse => exact ⟨j, mem_addNew_of_mem (by simp), .inl rfl⟩

theorem exists_mem_distinct (h : j ∈ items) : ∃ i ∈ distinct items, i = j ∨ same i j = true :=
  exists_mem_addNew h

theorem mem_of_mem_distinct (h : j ∈ distinct items) : j ∈ items :=
  (mem_addNew h).resolve_left (by simp)

theorem mem_of_mem_union (h : j ∈ union left right) : j ∈ left ∨ j ∈ right :=
  List.mem_append.mp (mem_of_mem_distinct h)

theorem exists_mem_union (h : j ∈ left ∨ j ∈ right) :
    ∃ i ∈ union left right, i.canonical = j.canonical := by
  obtain ⟨i, hi, hs⟩ := exists_mem_distinct (List.mem_append.mpr h)
  refine ⟨i, hi, ?_⟩
  cases hs
  case inl hs => rw [hs]
  case inr hs => exact canonical_eq_of_same hs

theorem string_mem_union {s : String} :
    .string s ∈ union left right ↔ .string s ∈ left ∨ .string s ∈ right := by
  constructor
  case mp  => exact mem_of_mem_union
  case mpr =>
    intro h
    obtain ⟨i, hi, hs⟩ := exists_mem_union h
    cases i <;> simp [canonical] at hs
    exact hs ▸ hi

theorem mem_of_mem_intersect (h : j ∈ intersect left right) : j ∈ left :=
  (List.mem_filter.mp (mem_of_mem_distinct h)).left

theorem mem_intersect (hr : ∀ j ∈ right, j.NumberFree) :
    j ∈ intersect left right ↔ j ∈ left ∧ j ∈ right := by
  have hm {i : Json} : isMember right i = true ↔ i ∈ right := by
    simp only [isMember, List.any_eq_true]
    constructor
    case mp =>
      intro ⟨k, hk, hs⟩
      exact (hr k hk).same_iff.mp hs ▸ hk
    case mpr => exact fun hi => ⟨i, hi, (hr i hi).same_iff.mpr rfl⟩
  constructor
  case mp =>
    intro h
    have h := List.mem_filter.mp (mem_of_mem_distinct h)
    exact ⟨h.left, hm.mp h.right⟩
  case mpr =>
    intro ⟨hl, h⟩
    obtain ⟨i, hi, hs⟩ := exists_mem_distinct (List.mem_filter.mpr ⟨hl, hm.mpr h⟩)
    have hi' := (List.mem_filter.mp (mem_of_mem_distinct hi)).right
    have hs : i = j := hs.elim id (hr i (hm.mp hi')).same_iff.mp
    exact hs ▸ hi

end JsonSchema.Json

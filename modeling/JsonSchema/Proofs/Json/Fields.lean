import JsonSchema.Json.Basic

namespace JsonSchema.Fields

variable {α : Type} {fields : List (String × α)} {key other : String} {v w : α}

theorem get?_cons (k : String) (v : α) (rest : List (String × α)) (key : String) :
    get? ((k, v) :: rest) key = if k = key then some v else get? rest key :=
  rfl

theorem get?_insert (key : String) (v : α) (fields : List (String × α)) (other : String) :
    get? (insert key v fields) other = if key = other then some v else get? fields other := by
  induction fields with
  | nil => rfl
  | cons field rest ih =>
    obtain ⟨k, w⟩ := field
    simp only [insert]
    split
    case isTrue => rfl
    case isFalse =>
      split
      case isTrue hk => subst hk; by_cases h : key = other <;> simp [get?_cons, h]
      case isFalse hk =>
        simp only [get?_cons, ih]
        by_cases ho : k = other
        case pos => simp [ho, show key ≠ other from ho ▸ hk]
        case neg => simp [ho]

theorem get?_filter {p : String × α → Bool} (h : ∀ v, p (key, v) = true) :
    get? (fields.filter p) key = get? fields key := by
  induction fields with
  | nil => rfl
  | cons field rest ih =>
    obtain ⟨k, w⟩ := field
    by_cases hk : k = key
    case pos => subst hk; simp [h, get?_cons]
    case neg => simp only [List.filter_cons]; split <;> simp [get?_cons, hk, ih]

theorem get?_filter_of_false {p : String × α → Bool} (h : ∀ v, p (key, v) = false) :
    get? (fields.filter p) key = none := by
  induction fields with
  | nil => rfl
  | cons field rest ih =>
    obtain ⟨k, w⟩ := field
    simp only [List.filter_cons]
    split
    case isFalse => exact ih
    case isTrue hp =>
      have hk : k ≠ key := by rintro rfl; simp [h] at hp
      simp [get?_cons, hk, ih]

theorem get?_erase (key : String) (fields : List (String × α)) (other : String) :
    get? (erase key fields) other = if key = other then none else get? fields other := by
  split
  case isTrue h  => subst h; exact get?_filter_of_false (by simp)
  case isFalse h => exact get?_filter (by simp [Ne.symm h])

theorem get?_map (f : String → α → α) (fields : List (String × α)) (key : String) :
    get? (fields.map fun (k, v) => (k, f k v)) key = (get? fields key).map (f key) := by
  induction fields with
  | nil => rfl
  | cons field rest ih =>
    obtain ⟨k, w⟩ := field
    by_cases hk : k = key
    case pos => simp [get?_cons, hk]
    case neg => simpa [get?_cons, hk] using ih

theorem modify_eq_map (key : String) (f : α → α) (fields : List (String × α)) :
    modify key f fields = fields.map fun (k, v) => (k, if k = key then f v else v) := by
  apply List.map_congr_left
  intro (k, v) _
  by_cases h : k = key <;> simp [h]

theorem get?_modify (key : String) (f : α → α) (fields : List (String × α)) (other : String) :
    get? (modify key f fields) other =
      if key = other then (get? fields other).map f else get? fields other := by
  rw [modify_eq_map, get?_map (fun k v => if k = key then f v else v)]
  split
  case isTrue h  => simp only [h, if_true]
  case isFalse h => simp only [Ne.symm h, if_false, Option.map_id']

theorem mem_of_get? (h : get? fields key = some v) : (key, v) ∈ fields := by
  induction fields with
  | nil => simp [get?] at h
  | cons field rest ih =>
    obtain ⟨k, w⟩ := field
    simp only [get?_cons] at h
    split at h
    case isTrue hk  => simp_all
    case isFalse hk => exact List.mem_cons_of_mem _ (ih h)

theorem get?_isSome_iff : (get? fields key).isSome ↔ key ∈ keys fields := by
  induction fields with
  | nil => simp [get?, keys]
  | cons field rest ih =>
    obtain ⟨k, w⟩ := field
    by_cases hk : k = key
    case pos => simp [get?_cons, keys, hk]
    case neg => simpa [get?_cons, keys, hk, Ne.symm hk] using ih

theorem get?_eq_none_iff : get? fields key = none ↔ key ∉ keys fields := by
  rw [← get?_isSome_iff]
  simp

theorem Sorted.cons {field : String × α} {rest : List (String × α)} (h : Sorted (field :: rest)) :
    Sorted rest :=
  (List.pairwise_cons.mp h).right

theorem Sorted.not_mem_keys {rest : List (String × α)} (h : Sorted ((key, v) :: rest)) :
    key ∉ keys rest := by
  intro hm
  obtain ⟨field, hf, he⟩ := List.mem_map.mp hm
  exact absurd ((List.pairwise_cons.mp h).left field hf) (he ▸ String.lt_irrefl _)

theorem Sorted.get? (hs : Sorted fields) (h : (key, v) ∈ fields) : get? fields key = some v := by
  induction fields with
  | nil => simp at h
  | cons field rest ih =>
    obtain ⟨k, w⟩ := field
    have hlt := (List.pairwise_cons.mp hs).left
    cases List.mem_cons.mp h
    case inl h => cases h; simp [get?_cons]
    case inr h =>
      have hk : k ≠ key := fun hk => String.lt_irrefl key (hk ▸ hlt _ h)
      simpa [get?_cons, hk] using ih hs.cons h

theorem mem_insert {field : String × α} (h : field ∈ insert key v fields) :
    field = (key, v) ∨ field ∈ fields := by
  induction fields with
  | nil => simpa [insert] using h
  | cons first rest ih =>
    obtain ⟨k, w⟩ := first
    simp only [insert] at h
    split at h
    case isTrue => simpa using h
    case isFalse =>
      split at h
      case isTrue => simp only [List.mem_cons] at h ⊢; exact h.imp id .inr
      case isFalse =>
        cases List.mem_cons.mp h
        case inl h => exact .inr (List.mem_cons.mpr (.inl h))
        case inr h => exact (ih h).imp id (List.mem_cons_of_mem _)

theorem Sorted.insert (hs : Sorted fields) : Sorted (insert key v fields) := by
  induction fields with
  | nil => simp [Fields.insert, Sorted]
  | cons field rest ih =>
    obtain ⟨k, w⟩ := field
    have ⟨hlt, hr⟩ := List.pairwise_cons.mp hs
    simp only [Fields.insert]
    split
    case isTrue hk =>
      refine List.pairwise_cons.mpr ⟨?_, hs⟩
      intro field hf
      cases List.mem_cons.mp hf
      case inl hf => exact hf ▸ hk
      case inr hf => exact String.lt_trans hk (hlt _ hf)
    case isFalse hk =>
      split
      case isTrue he => exact List.pairwise_cons.mpr ⟨he ▸ hlt, hr⟩
      case isFalse he =>
        have hk : k < key := Decidable.byContradiction fun hn =>
          he (String.le_antisymm (String.not_lt.mp hn) (String.not_lt.mp hk))
        refine List.pairwise_cons.mpr ⟨?_, ih hr⟩
        intro field hf
        cases mem_insert hf
        case inl hf => exact hf ▸ hk
        case inr hf => exact hlt _ hf

theorem Sorted.insert_last (hs : Sorted (fields ++ [(key, v)])) :
    Fields.insert key v fields = fields ++ [(key, v)] := by
  induction fields with
  | nil => rfl
  | cons field rest ih =>
    obtain ⟨k, w⟩ := field
    have ⟨hlt, hr⟩ := List.pairwise_cons.mp hs
    have hk : k < key := hlt (key, v) (by simp)
    simp only [Fields.insert, List.cons_append]
    rw [if_neg (String.lt_asymm hk), if_neg (fun he => String.lt_irrefl _ (he ▸ hk)), ih hr]

theorem Sorted.keys_insert (hs : Sorted fields) (v : α) (h : (Fields.get? fields key).isSome) :
    keys (Fields.insert key v fields) = keys fields := by
  induction fields with
  | nil => simp [Fields.get?] at h
  | cons field rest ih =>
    obtain ⟨k, w⟩ := field
    have ⟨hlt, hr⟩ := List.pairwise_cons.mp hs
    have hm := get?_isSome_iff.mp h
    simp only [keys, List.map_cons, List.mem_cons] at hm
    simp only [Fields.insert]
    cases hm
    case inl hk =>
      subst hk
      simp [keys]
    case inr hm =>
      obtain ⟨field, hf, rfl⟩ := List.mem_map.mp hm
      have hk := hlt field hf
      rw [if_neg (String.lt_asymm hk), if_neg (fun he => String.lt_irrefl _ (he ▸ hk))]
      have := ih hr (get?_isSome_iff.mpr (List.mem_map_of_mem hf))
      simp [keys] at this ⊢
      exact this

theorem Sorted.filter (p : String × α → Bool) (hs : Sorted fields) : Sorted (fields.filter p) :=
  List.Pairwise.filter p hs

theorem Sorted.of_keys_eq {β : Type} {others : List (String × β)} (hs : Sorted fields)
    (h : keys others = keys fields) : Sorted others := by
  have hk : (keys others).Pairwise (· < ·) := h ▸ List.pairwise_map.mpr hs
  exact List.pairwise_map.mp hk

theorem Sorted.sublist {others : List (String × α)} (hs : Sorted fields) (ho : Sorted others)
    (h : fields ⊆ others) : fields.Sublist others := by
  induction others generalizing fields with
  | nil => simp_all
  | cons other rest ih =>
    have ⟨hlt, hr⟩ := List.pairwise_cons.mp ho
    cases fields with
    | nil => exact List.nil_sublist _
    | cons field tail =>
      have ⟨hft, ht⟩ := List.pairwise_cons.mp hs
      cases List.mem_cons.mp (h List.mem_cons_self)
      case inl he =>
        subst he
        refine (ih ht hr fun f hf => ?_).cons_cons _
        refine (List.mem_cons.mp (h (List.mem_cons_of_mem _ hf))).resolve_left fun he => ?_
        exact String.lt_irrefl _ (he ▸ hft f hf)
      case inr hm =>
        refine (ih hs hr fun f hf => ?_).cons _
        refine (List.mem_cons.mp (h hf)).resolve_left fun he => ?_
        cases List.mem_cons.mp hf
        case inl hf => exact String.lt_irrefl _ (he ▸ hf ▸ hlt field hm)
        case inr hf => exact String.lt_asymm (he ▸ hft f hf) (hlt field hm)

theorem Sorted.eq_of_subset {others : List (String × α)} (hs : Sorted fields) (ho : Sorted others)
    (h : fields ⊆ others) (hl : fields.length = others.length) : fields = others :=
  (hs.sublist ho h).eq_of_length hl

theorem Sorted.ext {others : List (String × α)} (hs : Sorted fields) (hk : keys others = keys fields)
    (h : ∀ key, Fields.get? others key = Fields.get? fields key) : others = fields := by
  have ho : Sorted others := hs.of_keys_eq hk
  refine ho.eq_of_subset hs ?_ (by simpa [keys] using congrArg List.length hk)
  rintro ⟨key, v⟩ hm
  exact mem_of_get? (h key ▸ ho.get? hm)

theorem Sorted.insert_get? (hs : Sorted fields) (h : Fields.get? fields key = some v) :
    Fields.insert key v fields = fields := by
  refine hs.ext (hs.keys_insert v (by simp [h])) fun other => ?_
  rw [get?_insert]
  split
  case isTrue hk => rw [← hk, h]
  case isFalse   => rfl

theorem keys_map (f : String → α → α) (fields : List (String × α)) :
    keys (fields.map fun (k, v) => (k, f k v)) = keys fields := by
  simp [keys]

end JsonSchema.Fields

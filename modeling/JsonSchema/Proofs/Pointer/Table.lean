import JsonSchema.Pointer.Table

namespace JsonSchema

theorem Pointer.compareTokens_eq (front back : List String) :
    compareTokens front back = List.compareLex Ord.compare front back := by
  induction front generalizing back with
  | nil => cases back <;> rfl
  | cons a front ih =>
    cases back with
    | nil => rfl
    | cons b back =>
      rw [compareTokens, ih, List.compareLex_cons_cons]

theorem Pointer.eq_of_compare {p q : Pointer} (h : p.compare q = .eq) : p = q := by
  cases p
  cases q
  rw [compare, compareTokens_eq] at h
  exact congrArg mk (Std.LawfulEqCmp.eq_of_compare h)

theorem Pointer.compare_trans {p q r : Pointer} (hpq : p.compare q = .lt) (hqr : q.compare r = .lt) :
    p.compare r = .lt := by
  simp only [compare, compareTokens_eq] at *
  exact Std.TransCmp.lt_trans hpq hqr

theorem Pointer.compare_gt_iff {p q : Pointer} : p.compare q = .gt ↔ q.compare p = .lt := by
  simp only [compare, compareTokens_eq]
  exact Std.OrientedCmp.gt_iff_lt

namespace PointerTable

variable {α : Type} {t : PointerTable α} {p key : Pointer} {a value : α} {entry : Pointer × α}

theorem mem_of_lookup {entries : List (Pointer × α)} (h : lookup entries p = some a) :
    (p, a) ∈ entries := by
  induction entries with
  | nil => simp [lookup] at h
  | cons entry rest ih =>
    obtain ⟨q, b⟩ := entry
    simp only [lookup] at h
    split at h
    case isTrue hq => simp_all
    case isFalse   => exact List.mem_cons_of_mem _ (ih h)

theorem mem_of_get? (h : t.get? p = some a) : (p, a) ∈ t.entries :=
  mem_of_lookup h

theorem mem_insertEntry {entries : List (Pointer × α)} (h : entry ∈ insertEntry key value entries) :
    entry = (key, value) ∨ entry ∈ entries := by
  induction entries with
  | nil => exact .inl (List.mem_singleton.mp h)
  | cons first rest ih =>
    obtain ⟨q, b⟩ := first
    simp only [insertEntry] at h
    split at h
    case h_1 => exact List.mem_cons.mp h
    case h_2 => exact .inr h
    case h_3 =>
      cases List.mem_cons.mp h
      case inl h => exact .inr (h ▸ List.mem_cons_self)
      case inr h => exact (ih h).imp id (List.mem_cons_of_mem _)

theorem mem_insert (h : entry ∈ (t.insert key value).entries) :
    entry = (key, value) ∨ entry ∈ t.entries :=
  mem_insertEntry h

theorem mem_foldl_insert {entries : List (Pointer × α)}
    (h : entry ∈ (entries.foldl (fun t (p, a) => t.insert p a) t).entries) :
    entry ∈ entries ∨ entry ∈ t.entries := by
  induction entries generalizing t with
  | nil => exact .inr h
  | cons first rest ih =>
    cases ih h
    case inl h => exact .inl (List.mem_cons_of_mem _ h)
    case inr h =>
      cases mem_insert h
      case inl h => exact .inl (List.mem_cons.mpr (.inl h))
      case inr h => exact .inr h

theorem mem_ofList {entries : List (Pointer × α)} (h : entry ∈ (ofList entries).entries) :
    entry ∈ entries :=
  (mem_foldl_insert h).resolve_right List.not_mem_nil

theorem mem_keys_insert : p ∈ (t.insert key value).keys ↔ p = key ∨ p ∈ t.keys := by
  obtain ⟨entries⟩ := t
  simp only [keys, insert]
  induction entries with
  | nil => simp [insertEntry]
  | cons first rest ih =>
    obtain ⟨q, b⟩ := first
    simp only [insertEntry]
    split
    case h_1    => simp
    case h_2 hq => simp [Pointer.eq_of_compare hq]
    case h_3    => simp [ih, or_left_comm]

theorem mem_keys_foldl_insert {entries : List (Pointer × α)} :
    p ∈ (entries.foldl (fun t (p, a) => t.insert p a) t).keys ↔
      p ∈ entries.map (·.1) ∨ p ∈ t.keys := by
  induction entries generalizing t with
  | nil => simp
  | cons first rest ih =>
    rw [List.foldl_cons, ih, mem_keys_insert, List.map_cons, List.mem_cons]
    exact or_left_comm.trans or_assoc.symm

theorem mem_keys_ofList {entries : List (Pointer × α)} :
    p ∈ (ofList entries).keys ↔ p ∈ entries.map (·.1) := by
  rw [ofList, mem_keys_foldl_insert]
  simp [empty, keys]

theorem mem_keys_of_mem {entries : List (Pointer × α)} (h : (p, a) ∈ entries) :
    p ∈ (ofList entries).keys :=
  mem_keys_ofList.mpr (List.mem_map.mpr ⟨(p, a), h, rfl⟩)

theorem isSome_get? : (t.get? p).isSome ↔ p ∈ t.keys := by
  obtain ⟨entries⟩ := t
  simp only [get?, keys]
  induction entries with
  | nil => simp [lookup]
  | cons first rest ih =>
    obtain ⟨q, b⟩ := first
    simp only [lookup]
    split
    case isTrue hq  => simp [hq]
    case isFalse hq => simp [ih, Ne.symm hq]

def Ordered (entries : List (Pointer × α)) : Prop :=
  entries.Pairwise fun first second => first.1.compare second.1 = .lt

theorem Ordered.insertEntry {entries : List (Pointer × α)} (h : Ordered entries) (key : Pointer)
    (value : α) : Ordered (insertEntry key value entries) := by
  induction entries with
  | nil => exact List.pairwise_singleton _ _
  | cons first rest ih =>
    obtain ⟨q, b⟩ := first
    have ⟨hq, hr⟩ := List.pairwise_cons.mp h
    simp only [PointerTable.insertEntry]
    split
    case h_1 hk =>
      refine List.pairwise_cons.mpr ⟨fun entry he => ?_, h⟩
      cases List.mem_cons.mp he
      case inl he => exact he ▸ hk
      case inr he => exact Pointer.compare_trans hk (hq entry he)
    case h_2 => exact h
    case h_3 hk =>
      refine List.pairwise_cons.mpr ⟨fun entry he => ?_, ih hr⟩
      cases mem_insertEntry he
      case inl he => exact he ▸ Pointer.compare_gt_iff.mp hk
      case inr he => exact hq entry he

theorem lookup_eq_none_iff {entries : List (Pointer × α)} :
    lookup entries p = none ↔ ∀ a, (p, a) ∉ entries := by
  induction entries with
  | nil => simp [lookup]
  | cons first rest ih =>
    obtain ⟨q, b⟩ := first
    simp only [lookup]
    split
    case isTrue hq  => exact iff_of_false (by simp) fun hn => hn b (by simp [hq])
    case isFalse hq => simp [ih, Ne.symm hq]

theorem lookup_insertEntry {entries : List (Pointer × α)} (h : Ordered entries) :
    lookup (insertEntry key value entries) p =
      (lookup entries p).or (if key = p then some value else none) := by
  have hne (q : Pointer) : q.compare q ≠ .lt := fun hq => by
    have hg := Pointer.compare_gt_iff.mpr hq
    simp [hq] at hg
  induction entries with
  | nil => rfl
  | cons first rest ih =>
    obtain ⟨q, b⟩ := first
    have ⟨hq, hr⟩ := List.pairwise_cons.mp h
    simp only [insertEntry]
    split
    case h_1 hk =>
      have hn : lookup ((q, b) :: rest) key = none := by
        refine lookup_eq_none_iff.mpr fun a hm => hne key ?_
        cases List.mem_cons.mp hm
        case inl he =>
          cases he
          exact hk
        case inr he => exact Pointer.compare_trans hk (hq _ he)
      rw [lookup]
      split
      case isTrue he  => rw [← he, hn, Option.none_or]
      case isFalse    => rw [Option.or_none]
    case h_2 hk =>
      obtain rfl := Pointer.eq_of_compare hk
      simp only [lookup]
      split <;> simp
    case h_3 hk =>
      simp only [lookup, ih hr]
      split
      case isTrue  => rw [Option.some_or]
      case isFalse => rfl

-- The entries of the table come before those that are added, and of these the first one of a pointer counts.
theorem get?_foldl_insert (h : Ordered t.entries) (entries : List (Pointer × α)) (p : Pointer) :
    (entries.foldl (fun t (p, a) => t.insert p a) t).get? p = (t.get? p).or (lookup entries p) := by
  induction entries generalizing t with
  | nil => simp [lookup]
  | cons first rest ih =>
    obtain ⟨q, b⟩ := first
    rw [List.foldl_cons]
    refine (ih (t := t.insert q b) (h.insertEntry q b)).trans ?_
    simp only [get?, insert, lookup_insertEntry h, Option.or_assoc, lookup]
    split <;> simp

theorem get?_ofList (entries : List (Pointer × α)) (p : Pointer) :
    (ofList entries).get? p = lookup entries p :=
  get?_foldl_insert List.Pairwise.nil entries p

theorem lookup_filterMap {β : Type} (f : β → Option (Pointer × α)) (items : List β) (p : Pointer) :
    lookup (items.filterMap f) p =
      items.findSome? fun x => (f x).bind fun (q, a) => if q = p then some a else none := by
  induction items with
  | nil => rfl
  | cons x rest ih =>
    rw [List.findSome?_cons, ← ih]
    cases h : f x with
    | none       => simp [List.filterMap_cons_none h]
    | some entry =>
      obtain ⟨q, b⟩ := entry
      rw [List.filterMap_cons_some h, lookup]
      split <;> simp_all

theorem lookup_eq_some {entries : List (Pointer × α)} (h : (p, a) ∈ entries)
    (hu : ∀ b, (p, b) ∈ entries → b = a) : lookup entries p = some a := by
  cases hl : lookup entries p with
  | none   => exact absurd h (lookup_eq_none_iff.mp hl a)
  | some b => rw [hu b (mem_of_lookup hl)]

end PointerTable

end JsonSchema

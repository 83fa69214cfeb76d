import JsonSchema.Proofs.Json.Fields

namespace JsonSchema.Fields

-- The fields become the result by the changes; `R` relates the value of a key before its change, the
-- change itself and the value after it.
inductive Updates {α : Type} (R : String → Option α → α → Option α → Prop) :
    (fields changes result : List (String × α)) → Prop
  | nil {fields} : Updates R fields [] fields
  | cons {fields next rest result key v} :
    R key (get? fields key) v (get? next key) →
      (∀ other, other ≠ key → get? next other = get? fields other) → Updates R next rest result →
      Updates R fields ((key, v) :: rest) result

variable {α : Type} {fields changes result : List (String × α)} {key : String} {v : α}
variable {R : String → Option α → α → Option α → Prop}

theorem Updates.keep {rest : List (String × α)} (hr : R key (get? fields key) v (get? fields key))
    (h : Updates R fields rest result) : Updates R fields ((key, v) :: rest) result :=
  .cons hr (fun _ _ => rfl) h

theorem Updates.insert {rest : List (String × α)} {w : α}
    (hr : R key (get? fields key) v (some w)) (h : Updates R (insert key w fields) rest result) :
    Updates R fields ((key, v) :: rest) result := by
  refine .cons (by simpa [get?_insert] using hr) (fun other ho => ?_) h
  rw [get?_insert, if_neg ho.symm]

theorem Updates.erase {rest : List (String × α)} (hr : R key (get? fields key) v none)
    (h : Updates R (erase key fields) rest result) : Updates R fields ((key, v) :: rest) result := by
  refine .cons (by simpa [get?_erase] using hr) (fun other ho => ?_) h
  rw [get?_erase, if_neg ho.symm]

theorem Updates.get?_of_not_mem (h : Updates R fields changes result) (hk : key ∉ keys changes) :
    get? result key = get? fields key := by
  induction h with
  | nil => rfl
  | cons _ hn _ ih =>
    simp only [keys, List.map_cons, List.mem_cons, not_or] at hk
    rw [ih hk.right, hn key hk.left]

theorem Updates.get?_of_mem (h : Updates R fields changes result) (hs : Sorted changes)
    (hm : (key, v) ∈ changes) : R key (get? fields key) v (get? result key) := by
  induction h with
  | nil => simp at hm
  | @cons fields next rest result k w hr hn hu ih =>
    have ⟨hk, _⟩ := List.pairwise_cons.mp hs
    cases List.mem_cons.mp hm
    case inl he =>
      cases he
      exact hu.get?_of_not_mem hs.not_mem_keys ▸ hr
    case inr hrest =>
      have hne : key ≠ k := fun he => String.lt_irrefl key (he ▸ hk _ hrest)
      exact hn key hne ▸ ih hs.cons hrest

theorem Updates.get?_of_get? (h : Updates R fields changes result) (hs : Sorted changes)
    (hv : get? changes key = some v) : R key (get? fields key) v (get? result key) :=
  h.get?_of_mem hs (mem_of_get? hv)

theorem Updates.get?_of_none (h : Updates R fields changes result) (hn : get? changes key = none) :
    get? result key = get? fields key :=
  h.get?_of_not_mem (get?_eq_none_iff.mp hn)

end JsonSchema.Fields

import JsonSchema.Proofs.Json.Fields

namespace JsonSchema.Fields

-- `run` does one step for each field, and a step changes nothing of what is seen at other keys.
structure Stepwise {σ τ α : Type} (view : σ → String → τ) (step : σ → String → α → Option σ)
    (run : σ → List (String × α) → Option σ) : Prop where
  nil (s) : run s [] = some s
  cons (s key v rest) : run s ((key, v) :: rest) = (step s key v).bind (run · rest)
  apart {s t key v} : step s key v = some t → ∀ other, other ≠ key → view t other = view s other

section Stepwise

variable {σ τ α : Type} {view : σ → String → τ} {step step' : σ → String → α → Option σ}
variable {run run' : σ → List (String × α) → Option σ} {s : σ} {fields : List (String × α)}

theorem Sorted.ne_of_mem {key other : String} {v w : α} {rest : List (String × α)}
    (hs : Sorted ((key, v) :: rest)) (h : (other, w) ∈ rest) : other ≠ key := by
  rintro rfl
  exact hs.not_mem_keys (List.mem_map_of_mem h)

theorem Stepwise.idle (h : Stepwise view step run)
    (hi : ∀ key v, (key, v) ∈ fields → step s key v = some s) : run s fields = some s := by
  induction fields with
  | nil => exact h.nil s
  | cons field rest ih =>
    obtain ⟨key, v⟩ := field
    rw [h.cons, hi key v List.mem_cons_self]
    exact ih fun k w hm => hi k w (List.mem_cons_of_mem _ hm)

theorem Stepwise.congr (h : Stepwise view step run) (h' : Stepwise view step' run')
    (hs : Sorted fields)
    (ha : ∀ key v, (key, v) ∈ fields → ∀ t, view t key = view s key → step t key v = step' t key v) :
    run s fields = run' s fields := by
  induction fields generalizing s with
  | nil => rw [h.nil, h'.nil]
  | cons field rest ih =>
    obtain ⟨key, v⟩ := field
    rw [h.cons, h'.cons, ← ha key v List.mem_cons_self s rfl]
    cases hn : step s key v with
    | none => rfl
    | some next =>
      refine ih hs.cons fun k w hm t hv => ?_
      exact ha k w (List.mem_cons_of_mem _ hm) t (hv.trans (h.apart hn k (hs.ne_of_mem hm)))

-- A run ends early if one of its steps does, and all steps may be tried at the beginning.
theorem Stepwise.eq_none_iff (h : Stepwise view step run) (hs : Sorted fields)
    (hv : ∀ {s t key v}, view t key = view s key → step s key v = none → step t key v = none) :
    run s fields = none ↔ ∃ key v, (key, v) ∈ fields ∧ step s key v = none := by
  induction fields generalizing s with
  | nil => simp [h.nil]
  | cons field rest ih =>
    obtain ⟨key, v⟩ := field
    rw [h.cons]
    cases hn : step s key v with
    | none => exact iff_of_true rfl ⟨key, v, List.mem_cons_self, hn⟩
    | some next =>
      have hsame k w (hm : (k, w) ∈ rest) : step next k w = none ↔ step s k w = none :=
        have he := h.apart hn k (hs.ne_of_mem hm)
        ⟨hv he.symm, hv he⟩
      rw [Option.bind_some, ih hs.cons]
      constructor
      case mp =>
        rintro ⟨k, w, hm, hw⟩
        exact ⟨k, w, List.mem_cons_of_mem _ hm, (hsame k w hm).mp hw⟩
      case mpr =>
        rintro ⟨k, w, hm, hw⟩
        cases List.mem_cons.mp hm
        case inl he => cases he; simp [hn] at hw
        case inr hm => exact ⟨k, w, hm, (hsame k w hm).mpr hw⟩

end Stepwise

end JsonSchema.Fields

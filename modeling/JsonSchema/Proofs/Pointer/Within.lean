import JsonSchema.Pointer.Basic

namespace JsonSchema.Pointer

variable {p q r : Pointer}

theorem isWithin_iff : p.isWithin q = true ↔ q.tokens <+: p.tokens :=
  List.isPrefixOf_iff_prefix

theorem isWithin_iff_exists : p.isWithin q = true ↔ ∃ tokens, p = q.append tokens := by
  rw [isWithin_iff]
  constructor
  case mp  => intro ⟨tokens, h⟩; exact ⟨tokens, congrArg mk h.symm⟩
  case mpr => rintro ⟨tokens, rfl⟩; exact List.prefix_append ..

@[simp]
theorem isWithin_refl (p : Pointer) : p.isWithin p = true :=
  isWithin_iff.mpr (List.prefix_refl _)

theorem isWithin_trans (hp : p.isWithin q = true) (hq : q.isWithin r = true) :
    p.isWithin r = true :=
  isWithin_iff.mpr ((isWithin_iff.mp hq).trans (isWithin_iff.mp hp))

theorem isWithin_antisymm (hp : p.isWithin q = true) (hq : q.isWithin p = true) : p = q := by
  cases p
  cases q
  simpa using (isWithin_iff.mp hq).eq_of_length_le (isWithin_iff.mp hp).length_le

theorem isInside_iff : p.isInside q = true ↔ p.isWithin q = true ∧ p ≠ q := by
  simp only [isInside, Bool.and_eq_true, decide_eq_true_eq, and_congr_right_iff]
  intro hp
  constructor
  case mp  => rintro hd rfl; exact Nat.lt_irrefl _ hd
  case mpr =>
    intro hn
    apply Nat.lt_of_le_of_ne (isWithin_iff.mp hp).length_le
    intro hd
    apply hn
    cases p
    cases q
    simpa using ((isWithin_iff.mp hp).eq_of_length hd).symm

theorem isInside_trans_isWithin (hp : p.isInside q = true) (hq : q.isWithin r = true) :
    p.isInside r = true := by
  have ⟨hpq, hne⟩ := isInside_iff.mp hp
  refine isInside_iff.mpr ⟨isWithin_trans hpq hq, ?_⟩
  rintro rfl
  exact hne (isWithin_antisymm hpq hq)

theorem isWithin_trans_isInside (hp : p.isWithin q = true) (hq : q.isInside r = true) :
    p.isInside r = true := by
  have ⟨hqr, hne⟩ := isInside_iff.mp hq
  refine isInside_iff.mpr ⟨isWithin_trans hp hqr, ?_⟩
  rintro rfl
  exact hne (isWithin_antisymm hqr hp)

@[simp]
theorem append_nil (p : Pointer) : p.append [] = p := by
  simp [append]

theorem append_append (p : Pointer) (front back : List String) :
    (p.append front).append back = p.append (front ++ back) := by
  simp [append]

theorem child_append (p : Pointer) (token : String) (tokens : List String) :
    (p.child token).append tokens = p.append (token :: tokens) := by
  simp [append, child]

@[simp]
theorem root_append_tokens (p : Pointer) : root.append p.tokens = p := by
  simp [append, root]

@[simp]
theorem append_isWithin (p : Pointer) (tokens : List String) : (p.append tokens).isWithin p = true :=
  isWithin_iff_exists.mpr ⟨tokens, rfl⟩

theorem append_left_inj {tokens : List String} : p.append tokens = q.append tokens ↔ p = q := by
  cases p
  cases q
  simp [append]

theorem append_right_inj {front back : List String} : p.append front = p.append back ↔ front = back := by
  simp [append]

theorem rebase?_eq_some {source target : Pointer} :
    p.rebase? source target = some q ↔
      ∃ tokens, p = source.append tokens ∧ q = target.append tokens := by
  simp only [rebase?, after?]
  constructor
  case mp =>
    intro h
    split at h
    case isFalse => simp at h
    case isTrue hp =>
      obtain ⟨tokens, rfl⟩ := isWithin_iff_exists.mp hp
      exact ⟨tokens, rfl, by simpa [append, depth, eq_comm] using h⟩
  case mpr =>
    rintro ⟨tokens, rfl, rfl⟩
    simp [append, depth]

theorem rebase?_eq_none {source target : Pointer} :
    p.rebase? source target = none ↔ p.isWithin source = false := by
  rw [Option.eq_none_iff_forall_ne_some, Bool.eq_false_iff, Ne, isWithin_iff_exists]
  constructor
  case mp =>
    rintro h ⟨tokens, rfl⟩
    exact h _ (rebase?_eq_some.mpr ⟨tokens, rfl, rfl⟩)
  case mpr =>
    intro h q hq
    obtain ⟨tokens, rfl, _⟩ := rebase?_eq_some.mp hq
    exact h ⟨tokens, rfl⟩

theorem isInside_iff_exists :
    p.isInside q = true ↔ ∃ tokens, tokens ≠ [] ∧ p = q.append tokens := by
  rw [isInside_iff, isWithin_iff_exists]
  constructor
  case mp =>
    rintro ⟨⟨tokens, rfl⟩, hn⟩
    refine ⟨tokens, ?_, rfl⟩
    rintro rfl
    exact hn (append_nil q)
  case mpr =>
    rintro ⟨tokens, hn, rfl⟩
    exact ⟨⟨tokens, rfl⟩, fun h => hn (append_right_inj.mp (h.trans (append_nil q).symm))⟩

theorem isWithin_total (hq : p.isWithin q = true) (hr : p.isWithin r = true) :
    q.isWithin r = true ∨ r.isWithin q = true := by
  simp only [isWithin_iff] at *
  exact (List.prefix_or_prefix_of_prefix hq hr).symm

theorem child_isWithin (p : Pointer) (token : String) : (p.child token).isWithin p = true :=
  append_isWithin p [token]

theorem child_isInside (p : Pointer) (token : String) : (p.child token).isInside p = true :=
  isInside_iff_exists.mpr ⟨[token], by simp, rfl⟩

theorem induct_child {motive : Pointer → Prop} (root : motive .root)
    (child : ∀ p token, motive p → motive (p.child token)) (p : Pointer) : motive p := by
  have h (tokens : List String) : motive ⟨tokens.reverse⟩ := by
    induction tokens with
    | nil => exact root
    | cons token rest ih =>
      rw [List.reverse_cons]
      exact child _ token ih
  have := h p.tokens.reverse
  rwa [List.reverse_reverse] at this

end JsonSchema.Pointer

import JsonSchema.Pointer.Text

namespace JsonSchema.Pointer

theorem unescape?_escape (token : List Char) : unescape? (escape token) = some token := by
  induction token with
  | nil => rfl
  | cons c rest ih =>
    simp only [escape, List.flatMap_cons, escapeChar] at ih ⊢
    by_cases ht : c = '~'
    case pos => simp [ht, unescape?, ih]
    case neg =>
      by_cases hs : c = '/'
      case pos => simp [hs, unescape?, ih]
      case neg =>
        simp only [ht, hs, if_false, List.cons_append, List.nil_append]
        rw [unescape?]
        · simp [ht, ih]
        all_goals simp [ht]

theorem slash_not_mem_escape (token : List Char) : '/' ∉ escape token := by
  simp only [escape, List.mem_flatMap, not_exists, not_and]
  intro c _
  simp only [escapeChar]
  split
  case isTrue => decide
  case isFalse =>
    split
    case isTrue  => decide
    case isFalse => simp_all [eq_comm]

theorem splitSlash_of_not_mem {part : List Char} (h : '/' ∉ part) : splitSlash part = [part] := by
  induction part with
  | nil => rfl
  | cons c rest ih =>
    simp only [List.mem_cons, not_or] at h
    simp [splitSlash, Ne.symm h.left, ih h.right]

theorem splitSlash_append_slash {part : List Char} (h : '/' ∉ part) (rest : List Char) :
    splitSlash (part ++ '/' :: rest) = part :: splitSlash rest := by
  induction part with
  | nil => simp [splitSlash]
  | cons c part ih =>
    simp only [List.mem_cons, not_or] at h
    simp [splitSlash, Ne.symm h.left, ih h.right]

theorem splitSlash_tokens (token : String) (rest : List String) :
    splitSlash (escape token.toList ++ rest.flatMap fun token => '/' :: escape token.toList) =
      (token :: rest).map fun token => escape token.toList := by
  induction rest generalizing token with
  | nil => simp [splitSlash_of_not_mem (slash_not_mem_escape _)]
  | cons next rest ih =>
    rw [List.flatMap_cons, List.cons_append, splitSlash_append_slash (slash_not_mem_escape _), ih]
    rfl

theorem mapM_unescape? (tokens : List String) :
    (tokens.map fun token => escape token.toList).mapM unescape? =
      some (tokens.map String.toList) := by
  induction tokens with
  | nil => rfl
  | cons token rest ih => simp [List.mapM_cons, unescape?_escape, ih]

theorem parseChars?_of_dropNumberSign {cs : List Char} {p : Pointer}
    (h : dropNumberSign cs = p.textChars) : parseChars? cs = some p := by
  obtain ⟨tokens⟩ := p
  simp only [parseChars?, h]
  cases tokens with
  | nil => rfl
  | cons token rest =>
    simp only [textChars, List.flatMap_cons, List.cons_append, splitSlash_tokens, mapM_unescape?,
      Option.map_some, List.map_map]
    simp [Function.comp_def]

theorem parse?_fragment (p : Pointer) : parse? p.fragment = some p := by
  apply parseChars?_of_dropNumberSign
  simp [fragment, dropNumberSign]

theorem parse?_text (p : Pointer) : parse? p.text = some p := by
  apply parseChars?_of_dropNumberSign
  obtain ⟨tokens⟩ := p
  cases tokens <;> simp [text, textChars, dropNumberSign]

theorem digit_bounds {c : Char} (h : c.isDigit = true) : 48 ≤ c.toNat ∧ c.toNat ≤ 57 := by
  simp only [Char.isDigit, Bool.and_eq_true, decide_eq_true_eq, ge_iff_le, UInt32.le_iff_toNat_le] at h
  exact h

theorem toDigits_digit {c : Char} (h : c.isDigit = true) :
    Nat.toDigits 10 (c.toNat - '0'.toNat) = [c] := by
  have hb := digit_bounds h
  have hc : c = Char.ofNat c.toNat := (Char.ofNat_toNat c).symm
  generalize c.toNat = n at hb hc
  subst hc
  have : n = 48 ∨ n = 49 ∨ n = 50 ∨ n = 51 ∨ n = 52 ∨ n = 53 ∨ n = 54 ∨ n = 55 ∨ n = 56 ∨ n = 57 := by
    omega
  rcases this with h | h | h | h | h | h | h | h | h | h <;> subst h <;> rfl

-- Digits without a leading zero are what their number is written as. The induction is on the digits
-- from the last one on, since writing a number splits off its last digit.
theorem toDigits_ofDigitChars {cs : List Char} (hn : cs ≠ []) (hd : ∀ c ∈ cs, c.isDigit = true)
    (hz : cs = ['0'] ∨ cs.head? ≠ some '0') : Nat.toDigits 10 (Nat.ofDigitChars 10 cs 0) = cs := by
  induction h : cs.length generalizing cs with
  | zero => simp_all
  | succ n ih =>
    obtain ⟨front, c, rfl⟩ : ∃ front c, cs = front ++ [c] :=
      ⟨cs.dropLast, cs.getLast hn, (List.dropLast_concat_getLast hn).symm⟩
    have hc : c.isDigit = true := hd c (by simp)
    by_cases hf : front = []
    case pos => subst hf; simpa [Nat.ofDigitChars_cons] using toDigits_digit hc
    case neg =>
      have hz : front.head? ≠ some '0' := by
        obtain ⟨_, _, rfl⟩ := List.exists_cons_of_ne_nil hf
        simpa using hz
      have ih := ih hf (fun c hc => hd c (List.mem_append_left _ hc)) (.inr hz) (by simpa using h)
      have hpos : 0 < Nat.ofDigitChars 10 front 0 := by
        apply Nat.pos_of_ne_zero
        intro h0
        rw [h0] at ih
        exact hz (ih ▸ rfl)
      have hb := digit_bounds hc
      rw [Nat.ofDigitChars_append, Nat.ofDigitChars_cons, Nat.ofDigitChars_nil,
        ← Nat.toDigits_append_toDigits (by omega) hpos (by simp; omega), ih, toDigits_digit hc]

theorem toList_ofIndex (n : Nat) : (ofIndex n).toList = Nat.toDigits 10 n := by
  simp [ofIndex]

theorem ofDigitChars_ofIndex (n : Nat) : Nat.ofDigitChars 10 (ofIndex n).toList 0 = n := by
  rw [toList_ofIndex]
  exact Nat.ofDigitChars_toDigits (by decide) (by decide)

theorem ofIndex_injective {m n : Nat} (h : ofIndex m = ofIndex n) : m = n :=
  ofDigitChars_ofIndex m ▸ h ▸ ofDigitChars_ofIndex n

theorem head?_toDigits {n : Nat} (h : n ≠ 0) : (Nat.toDigits 10 n).head? ≠ some '0' := by
  induction n using Nat.strongRecOn with
  | ind n ih =>
    rw [Nat.toDigits_eq_if (by decide)]
    split
    case isTrue => simpa using h
    case isFalse hl =>
      rw [List.head?_append, Option.or_of_isSome (by simp [Nat.toDigits_ne_nil])]
      exact ih (n / 10) (by omega) (by omega)

theorem index?_ofIndex {n : Nat} (h : n < UInt64.size) : index? (ofIndex n) = some n := by
  have hn : (ofIndex n).toList ≠ [] := by simp [toList_ofIndex, Nat.toDigits_ne_nil]
  have hd : (ofIndex n).toList.all Char.isDigit = true := by
    simp only [toList_ofIndex, List.all_eq_true]
    exact fun c hc => Nat.isDigit_of_mem_toDigits (by decide) (by decide) hc
  have hz : (ofIndex n).toList = ['0'] ∨ (ofIndex n).toList.head? ≠ some '0' := by
    rw [toList_ofIndex]
    by_cases h0 : n = 0
    case pos => exact .inl (h0 ▸ rfl)
    case neg => exact .inr (head?_toDigits h0)
  have hv : (ofIndex n).toList.foldl (fun n c => 10 * n + (c.toNat - '0'.toNat)) 0 = n :=
    ofDigitChars_ofIndex n
  simp only [index?, hv]
  rw [if_pos ⟨hn, hd, hz⟩, if_pos h]

theorem eq_ofIndex_of_index? {token : String} {n : Nat} (h : index? token = some n) :
    token = ofIndex n := by
  simp only [index?] at h
  split at h
  case isFalse => simp at h
  case isTrue hc =>
    obtain ⟨hn, hd, hz⟩ := hc
    split at h
    case isFalse => simp at h
    case isTrue =>
      have h : Nat.ofDigitChars 10 token.toList 0 = n := Option.some.inj h
      have ht := toDigits_ofDigitChars hn (by simpa using hd) hz
      rw [ofIndex, Nat.toString_eq_ofList_toDigits, ← h, ht, String.ofList_toList]

end JsonSchema.Pointer

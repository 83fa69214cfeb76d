import JsonSchema.Proofs.Pointer.Text

namespace JsonSchema.Pointer

-- A step as it is written: it has no slash, and after each of its tildes comes `0` or `1`.
structure Escaped (token : List Char) : Prop where
  slash : '/' ∉ token
  tilde : ∀ front back, token = front ++ '~' :: back →
    back.head? = some '0' ∨ back.head? = some '1'

def Grammatical (cs : List Char) : Prop :=
  ∃ tokens : List (List Char), cs = tokens.flatMap ('/' :: ·) ∧ ∀ token ∈ tokens, Escaped token

theorem escaped_nil : Escaped [] where
  slash := by simp
  tilde := by simp

theorem Escaped.cons {c : Char} {rest : List Char} (h : Escaped rest) (hs : c ≠ '/')
    (ht : c = '~' → rest.head? = some '0' ∨ rest.head? = some '1') : Escaped (c :: rest) where
  slash := by simp [Ne.symm hs, h.slash]
  tilde := by
    intro front back he
    cases front with
    | nil =>
      obtain ⟨rfl, rfl⟩ := List.cons.inj he
      exact ht rfl
    | cons first front =>
      obtain ⟨_, he⟩ := List.cons.inj he
      exact h.tilde front back he

theorem Escaped.tail {c : Char} {rest : List Char} (h : Escaped (c :: rest)) : Escaped rest where
  slash := fun hm => h.slash (List.mem_cons_of_mem _ hm)
  tilde := fun front back he => h.tilde (c :: front) back (by simp [he])

theorem escaped_escape (token : List Char) : Escaped (escape token) := by
  induction token with
  | nil => exact escaped_nil
  | cons c rest ih =>
    simp only [escape, List.flatMap_cons, escapeChar] at ih ⊢
    split
    case isTrue => exact (ih.cons (by decide) (by simp)).cons (by decide) fun _ => .inl rfl
    case isFalse ht =>
      split
      case isTrue     => exact (ih.cons (by decide) (by simp)).cons (by decide) fun _ => .inr rfl
      case isFalse hs => exact ih.cons hs fun h => absurd h ht

-- Along the cases of `unescape?`: only a tilde before another character is refused.
theorem exists_unescape? {token : List Char} (h : Escaped token) :
    ∃ unescaped, unescape? token = some unescaped := by
  fun_induction unescape? token with
  | case1 => exact ⟨[], rfl⟩
  | case2 rest ih | case3 rest ih =>
    obtain ⟨unescaped, hu⟩ := ih h.tail.tail
    simp [hu]
  | case4 rest hzero hone =>
    exfalso
    cases rest with
    | nil         => simpa using h.tilde [] [] rfl
    | cons c rest =>
      have hc := h.tilde [] (c :: rest) rfl
      simp only [List.head?_cons, Option.some.injEq] at hc
      cases hc
      case inl hc => exact hzero rest rfl (by rw [hc])
      case inr hc => exact hone rest rfl (by rw [hc])
  | case5 c rest _ _ _ ih =>
    obtain ⟨unescaped, hu⟩ := ih h.tail
    simp [hu]

theorem escape_of_unescape? {token unescaped : List Char} (hs : '/' ∉ token)
    (h : unescape? token = some unescaped) : escape unescaped = token := by
  fun_induction unescape? token generalizing unescaped with
  | case1 =>
    cases h
    rfl
  | case2 rest ih | case3 rest ih =>
    obtain ⟨front, hu, rfl⟩ := Option.map_eq_some_iff.mp h
    simp only [List.mem_cons, not_or] at hs
    have hr := ih hs.right.right hu
    simpa [escape, escapeChar] using hr
  | case4 => simp at h
  | case5 c rest _ _ ht ih =>
    obtain ⟨front, hu, rfl⟩ := Option.map_eq_some_iff.mp h
    simp only [List.mem_cons, not_or] at hs
    have hr := ih hs.right hu
    simpa [escape, escapeChar, ht, Ne.symm hs.left] using hr

theorem splitSlash_ne_nil (cs : List Char) : splitSlash cs ≠ [] := by
  fun_cases splitSlash cs <;> simp

theorem slash_not_mem_of_mem_splitSlash {cs part : List Char} (h : part ∈ splitSlash cs) :
    '/' ∉ part := by
  fun_induction splitSlash cs generalizing part with
  | case1 => simp_all
  | case2 rest ih =>
    cases List.mem_cons.mp h
    case inl h => simp [h]
    case inr h => exact ih h
  | case3 c rest hc he => exact absurd he (splitSlash_ne_nil rest)
  | case4 c rest hc first parts he ih =>
    rw [he] at ih
    cases List.mem_cons.mp h
    case inl h =>
      rw [h, List.mem_cons, not_or]
      exact ⟨Ne.symm hc, ih List.mem_cons_self⟩
    case inr h => exact ih (List.mem_cons_of_mem _ h)

theorem flatMap_splitSlash (cs : List Char) : (splitSlash cs).flatMap ('/' :: ·) = '/' :: cs := by
  fun_induction splitSlash cs with
  | case1 => rfl
  | case2 rest ih => simp [ih]
  | case3 c rest hc he => exact absurd he (splitSlash_ne_nil rest)
  | case4 c rest hc first parts he ih =>
    rw [he] at ih
    simp only [List.flatMap_cons, List.cons_append, List.cons.injEq, true_and] at ih ⊢
    exact ih

theorem escape_of_mapM_unescape? {tokens unescaped : List (List Char)}
    (hs : ∀ token ∈ tokens, '/' ∉ token) (h : tokens.mapM unescape? = some unescaped) :
    unescaped.map escape = tokens := by
  induction tokens generalizing unescaped with
  | nil =>
    cases h
    rfl
  | cons token rest ih =>
    simp only [List.mapM_cons, Option.bind_eq_bind, Option.bind_eq_some_iff] at h
    obtain ⟨first, hf, others, hr, h⟩ := h
    cases h
    have ⟨ht, hs⟩ := List.forall_mem_cons.mp hs
    simp [escape_of_unescape? ht hf, ih hs hr]

theorem exists_mapM_unescape? {tokens : List (List Char)} (h : ∀ token ∈ tokens, Escaped token) :
    ∃ unescaped, tokens.mapM unescape? = some unescaped := by
  induction tokens with
  | nil => exact ⟨[], rfl⟩
  | cons token rest ih =>
    have ⟨ht, hr⟩ := List.forall_mem_cons.mp h
    obtain ⟨first, hf⟩  := exists_unescape? ht
    obtain ⟨others, ho⟩ := ih hr
    exact ⟨first :: others, by simp [List.mapM_cons, hf, ho]⟩

theorem grammatical_textChars (p : Pointer) : Grammatical p.textChars := by
  refine ⟨p.tokens.map fun token => escape token.toList, by simp [textChars, List.flatMap_map], ?_⟩
  intro token ht
  obtain ⟨step, _, rfl⟩ := List.mem_map.mp ht
  exact escaped_escape _

theorem exists_textChars_of_grammatical {cs : List Char} (h : Grammatical cs) :
    ∃ p : Pointer, p.textChars = cs := by
  obtain ⟨tokens, rfl, ht⟩ := h
  obtain ⟨unescaped, hu⟩ := exists_mapM_unescape? ht
  have he := escape_of_mapM_unescape? (fun token hm => (ht token hm).slash) hu
  exact ⟨⟨unescaped.map String.ofList⟩, by simp [textChars, List.flatMap_map, ← he]⟩

theorem parseChars?_eq_some_iff {cs : List Char} {p : Pointer} :
    parseChars? cs = some p ↔ p.textChars = dropNumberSign cs := by
  constructor
  case mpr => exact fun h => parseChars?_of_dropNumberSign h.symm
  case mp =>
    intro h
    unfold parseChars? at h
    split at h
    case h_1 hd =>
      cases h
      exact hd.symm
    case h_2 rest hd =>
      obtain ⟨parts, hp, rfl⟩ := Option.map_eq_some_iff.mp h
      have he := escape_of_mapM_unescape? (fun _ => slash_not_mem_of_mem_splitSlash) hp
      rw [hd, ← flatMap_splitSlash rest, ← he]
      simp [textChars, List.flatMap_map]
    case h_3 => simp at h

-- Each pointer is read back from its texts, and the texts that hold a pointer are those of the grammar,
-- with or without a number sign: they hold the pointer of which this is the text.
theorem parse?_iff_grammatical (tokens : List String) (text : String) :
    parse? (Pointer.text ⟨tokens⟩) = some ⟨tokens⟩ ∧ parse? (fragment ⟨tokens⟩) = some ⟨tokens⟩ ∧
      ((∃ p, parse? text = some p) ↔ Grammatical (dropNumberSign text.toList)) ∧
      ∀ p, parse? text = some p ↔ p.text = String.ofList (dropNumberSign text.toList) := by
  refine ⟨parse?_text _, parse?_fragment _, ?grammar, ?text⟩
  case grammar =>
    simp only [parse?, parseChars?_eq_some_iff]
    constructor
    case mp =>
      rintro ⟨p, hp⟩
      exact hp ▸ grammatical_textChars p
    case mpr => exact exists_textChars_of_grammatical
  case text =>
    intro p
    rw [parse?, parseChars?_eq_some_iff, Pointer.text, String.ofList_inj]

end JsonSchema.Pointer

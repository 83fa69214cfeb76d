import JsonSchema.Format.Basic
import JsonSchema.Proofs.Pattern.Matching
import JsonSchema.Proofs.Pointer.Grammar

namespace JsonSchema

variable {α : Type} {c : Char} {f : α → List Char} {p : Pattern} {text : List Char}

namespace Pattern

theorem means_many_flatMap (h : p.Means fun text => ∃ a, text = f a) :
    (many p).Means fun text => ∃ as : List α, text = as.flatMap f := by
  refine (means_many h).congr fun text => ?_
  constructor
  case mpr =>
    rintro ⟨as, rfl⟩
    refine ⟨as.map f, (List.flatMap_def ..), fun part hp => ?_⟩
    obtain ⟨a, _, rfl⟩ := List.mem_map.mp hp
    exact ⟨a, rfl⟩
  case mp =>
    rintro ⟨parts, rfl, hp⟩
    induction parts with
    | nil => exact ⟨[], rfl⟩
    | cons part rest ih =>
      obtain ⟨⟨a, rfl⟩, hr⟩ := List.forall_mem_cons.mp hp
      obtain ⟨as, has⟩ := ih hr
      exact ⟨a :: as, by rw [List.flatten_cons, has, List.flatMap_cons]⟩

end Pattern

namespace Format

namespace Grammar

open Pattern

theorem contains_charsOf {s : String} : (charsOf s).contains c = true ↔ c ∈ s.toList := by
  simp only [charsOf, CharSet.contains_unions, List.mem_map]
  constructor
  case mp  => rintro ⟨_, ⟨d, hd, rfl⟩, hc⟩; exact CharSet.contains_single.mp hc ▸ hd
  case mpr => exact fun hc => ⟨_, ⟨c, hc, rfl⟩, CharSet.contains_single.mpr rfl⟩

theorem contains_compl_charsOf {s : String} :
    (charsOf s).compl.contains c = true ↔ c ∉ s.toList := by
  have hr : CharSet.Rising (charsOf s).ranges := by
    refine CharSet.rising_ofRanges fun r hr => ?_
    simp only [List.mem_flatMap, List.mem_map] at hr
    obtain ⟨_, ⟨d, _, rfl⟩, hr⟩ := hr
    obtain rfl := List.mem_singleton.mp hr
    exact Nat.le_refl _
  rw [CharSet.contains_compl hr, contains_charsOf]

theorem means_escapedChar :
    (anyOf [char (charsOf "~/").compl, literal "~0", literal "~1"]).Means fun text =>
      ∃ c, text = Pointer.escapeChar c := by
  refine (means_either (means_char _) (means_either (means_literal _) (means_literal _))).congr ?_
  intro text
  simp only [contains_compl_charsOf]
  constructor
  case mp =>
    rintro (⟨c, rfl, hc⟩ | rfl | rfl)
    · refine ⟨c, ?_⟩
      have ⟨ht, hs⟩ : c ≠ '~' ∧ c ≠ '/' := by simpa using hc
      simp [Pointer.escapeChar, ht, hs]
    · exact ⟨'~', rfl⟩
    · exact ⟨'/', rfl⟩
  case mpr =>
    rintro ⟨c, rfl⟩
    unfold Pointer.escapeChar
    split
    case isTrue => exact .inr (.inl rfl)
    case isFalse ht =>
      split
      case isTrue     => exact .inr (.inr rfl)
      case isFalse hs => exact .inl ⟨c, rfl, by simp [ht, hs]⟩

theorem means_jsonPointer : jsonPointer.Means fun text => ∃ p : Pointer, text = p.textChars := by
  have htoken := means_many_flatMap means_escapedChar
  have hstep := means_andThen (means_single '/') (means_andThen htoken means_empty)
  have hsteps : jsonPointer.Means fun text =>
      ∃ tokens : List String, text = tokens.flatMap fun token => '/' :: Pointer.escape token.toList := by
    refine means_many_flatMap (hstep.congr fun text => ?_)
    constructor
    case mp =>
      rintro ⟨_, _, rfl, rfl, _, _, rfl, ⟨cs, rfl⟩, rfl⟩
      exact ⟨String.ofList cs, by simp [Pointer.escape]⟩
    case mpr =>
      rintro ⟨token, rfl⟩
      exact ⟨_, _, rfl, rfl, _, _, (List.append_nil _).symm, ⟨token.toList, rfl⟩, rfl⟩
  refine hsteps.congr fun text => ?_
  constructor
  case mp =>
    rintro ⟨tokens, h⟩
    exact ⟨⟨tokens⟩, h⟩
  case mpr =>
    rintro ⟨p, h⟩
    exact ⟨p.tokens, h⟩

end Grammar

theorem head?_textChars_ne (p : Pointer) : p.textChars.head? ≠ some '#' := by
  obtain ⟨tokens⟩ := p
  cases tokens <;> simp [Pointer.textChars]

theorem dropNumberSign_eq_self (h : text.head? ≠ some '#') : Pointer.dropNumberSign text = text := by
  unfold Pointer.dropNumberSign
  split
  case h_1 => simp at h
  case h_2 => rfl

-- Both recognizers of pointers agree on texts in plain form: the format admits what can be read.
theorem admits_jsonPointer_iff (text : String) :
    (ofName? "json-pointer").map (admits text) = some true ↔
      (∃ p, Pointer.parse? text = some p) ∧ text.toList.head? ≠ some '#' := by
  have hf : ofName? "json-pointer" = some jsonPointer := by decide
  have hm : (ofName? "json-pointer").map (admits text) = some true ↔
      ∃ p : Pointer, text.toList = p.textChars := by
    rw [hf, Option.map_some, Option.some.injEq, admits]
    exact Grammar.means_jsonPointer.covers_iff
  simp only [hm, Pointer.parse?, Pointer.parseChars?_eq_some_iff]
  constructor
  case mp =>
    rintro ⟨p, hp⟩
    have hh : text.toList.head? ≠ some '#' := hp ▸ head?_textChars_ne p
    exact ⟨⟨p, by rw [dropNumberSign_eq_self hh, hp]⟩, hh⟩
  case mpr =>
    rintro ⟨⟨p, hp⟩, hh⟩
    exact ⟨p, by rw [hp, dropNumberSign_eq_self hh]⟩

end Format

end JsonSchema

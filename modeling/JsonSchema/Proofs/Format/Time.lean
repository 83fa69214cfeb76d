import JsonSchema.Format.Basic
import JsonSchema.Proofs.Pattern.Matching
import JsonSchema.Proofs.Pointer.Text

namespace JsonSchema.Format

open Pattern

variable {cs rest text : List Char} {n hour minute second : Nat}

def twoDigits (n : Nat) : List Char := [Nat.digitChar (n / 10), Nat.digitChar (n % 10)]

def clock (hour minute second : Nat) : List Char :=
  twoDigits hour ++ ':' :: (twoDigits minute ++ ':' :: twoDigits second)

theorem digitChar_sub {c : Char} (h : c.isDigit = true) : Nat.digitChar (c.toNat - 48) = c := by
  have hb := Pointer.digit_bounds h
  have hd : Nat.toDigits 10 (c.toNat - 48) = [c] := Pointer.toDigits_digit h
  rw [Nat.toDigits_of_lt_base (by omega)] at hd
  exact (List.cons.inj hd).left

theorem readExactly?_two :
    readExactly? 2 cs = some (n, rest) ↔ n < 100 ∧ cs = twoDigits n ++ rest := by
  constructor
  case mp =>
    intro h
    match cs with
    | [] | [_] => simp [readExactly?] at h
    | a :: b :: tail =>
      simp only [readExactly?, List.take_succ_cons, List.take_zero, List.drop_succ_cons, List.drop_zero,
        Option.ite_none_right_eq_some, Option.some.injEq, Prod.mk.injEq] at h
      obtain ⟨hd, rfl, rfl⟩ := h
      obtain ⟨ha, hb⟩ : a.isDigit = true ∧ b.isDigit = true := by simpa using hd
      have hla := Pointer.digit_bounds ha
      have hlb := Pointer.digit_bounds hb
      have hv : digitsValue [a, b] = 10 * (a.toNat - 48) + (b.toNat - 48) := by simp [digitsValue]
      have hq : digitsValue [a, b] / 10 = a.toNat - 48 := by omega
      have hr : digitsValue [a, b] % 10 = b.toNat - 48 := by omega
      exact ⟨by omega, by rw [twoDigits, hq, hr, digitChar_sub ha, digitChar_sub hb]; rfl⟩
  case mpr =>
    rintro ⟨hn, rfl⟩
    have hq := Nat.toNat_digitChar_sub_48_of_lt_ten (show n / 10 < 10 by omega)
    have hr := Nat.toNat_digitChar_sub_48_of_lt_ten (show n % 10 < 10 by omega)
    have hv : digitsValue (twoDigits n) = n := by
      simp only [digitsValue, twoDigits, List.foldl_cons, List.foldl_nil, hq, hr]
      omega
    have hd : (twoDigits n).all Char.isDigit = true := by
      simp only [twoDigits, List.all_cons, List.all_nil, Nat.isDigit_digitChar, Bool.and_true,
        Bool.and_eq_true, decide_eq_true_eq]
      omega
    have hl : (twoDigits n).length = 2 := rfl
    have ht : (twoDigits n ++ rest).take 2 = twoDigits n := rfl
    have hr : (twoDigits n ++ rest).drop 2 = rest := rfl
    simp [readExactly?, ht, hr, hl, hd, hv]

theorem readChar?_eq_some {c : Char} : readChar? c cs = some rest ↔ cs = c :: rest := by
  cases cs with
  | nil => simp [readChar?]
  | cons first tail =>
    simp only [readChar?, Option.ite_none_right_eq_some, Option.some.injEq, List.cons.injEq]

theorem readClock?_eq_some :
    readClock? cs = some ((hour, minute, second), rest) ↔
      (hour < 100 ∧ minute < 100 ∧ second < 100) ∧ cs = clock hour minute second ++ rest := by
  simp only [readClock?, Option.bind_eq_bind, Option.bind_eq_some_iff, Prod.exists, readExactly?_two,
    readChar?_eq_some, Option.some.injEq, Prod.mk.injEq, clock, List.append_assoc, List.cons_append]
  constructor
  case mp =>
    rintro ⟨h, _, ⟨hh, rfl⟩, _, rfl, m, _, ⟨hm, rfl⟩, _, rfl, s, _, ⟨hs, rfl⟩, ⟨rfl, rfl, rfl⟩, rfl⟩
    exact ⟨⟨hh, hm, hs⟩, rfl⟩
  case mpr =>
    rintro ⟨⟨hh, hm, hs⟩, rfl⟩
    exact ⟨hour, _, ⟨hh, rfl⟩, _, rfl, minute, _, ⟨hm, rfl⟩, _, rfl, second, _, ⟨hs, rfl⟩,
      ⟨rfl, rfl, rfl⟩, rfl⟩

-- Decimal digits of any script.
def IsDigits (text : List Char) : Prop := ∀ c ∈ text, Unicode.decimalNumber.contains c = true

def IsPair (text : List Char) : Prop := text.length = 2 ∧ IsDigits text

def IsFraction (text : List Char) : Prop :=
  ∃ digits, text = '.' :: digits ∧ digits ≠ [] ∧ IsDigits digits

-- A distance in hours, or in hours and minutes with or without a colon between them.
def IsDistance (text : List Char) : Prop :=
  ∃ sign hours minutes, text = sign :: (hours ++ minutes) ∧ (sign = '+' ∨ sign = '-') ∧ IsPair hours ∧
    (minutes = [] ∨ IsPair minutes ∨ ∃ digits, minutes = ':' :: digits ∧ IsPair digits)

def IsZone (text : List Char) : Prop := text = ['z'] ∨ text = ['Z'] ∨ IsDistance text

def IsTail (text : List Char) : Prop :=
  ∃ fraction zone, text = fraction ++ zone ∧ (fraction = [] ∨ IsFraction fraction) ∧
    (zone = [] ∨ IsZone zone)

theorem means_fraction : (sequence [single '.', many1 digit]).Means IsFraction := by
  have hdigits := means_copies_char Unicode.decimalNumber 1 none
  refine (means_andThen (means_single '.') (means_andThen hdigits means_empty)).congr fun text => ?_
  constructor
  case mp =>
    rintro ⟨_, _, rfl, rfl, digits, _, rfl, ⟨hn, hd⟩, rfl⟩
    exact ⟨digits, by simp, List.length_pos_iff.mp hn.left, hd⟩
  case mpr =>
    rintro ⟨digits, rfl, hn, hd⟩
    have hr : InRange 1 none digits.length := ⟨List.length_pos_iff.mpr hn, by simp⟩
    exact ⟨['.'], digits, rfl, rfl, digits, [], (List.append_nil _).symm, ⟨hr, hd⟩, rfl⟩

theorem means_pair : (exactly 2 digit).Means IsPair := by
  refine (means_copies_char Unicode.decimalNumber 2 (some 0)).congr fun text => ?_
  refine and_congr_left fun _ => ?_
  simp only [InRange, Option.some.injEq, forall_eq']
  omega

theorem means_minutes : (sequence [optional (single ':'), exactly 2 digit]).Means fun text =>
    IsPair text ∨ ∃ digits, text = ':' :: digits ∧ IsPair digits := by
  have h := means_andThen (means_optional (means_single ':')) (means_andThen means_pair means_empty)
  refine h.congr fun text => ?_
  constructor
  case mp =>
    rintro ⟨_, _, rfl, rfl | rfl, digits, _, rfl, hd, rfl⟩
    · exact .inl (by simpa using hd)
    · exact .inr ⟨digits, by simp, hd⟩
  case mpr =>
    rintro (hd | ⟨digits, rfl, hd⟩)
    · exact ⟨[], text, rfl, .inl rfl, text, [], (List.append_nil _).symm, hd, rfl⟩
    · exact ⟨[':'], digits, rfl, .inr rfl, digits, [], (List.append_nil _).symm, hd, rfl⟩

theorem means_distance :
    (sequence [sign, exactly 2 digit,
      optional (sequence [optional (single ':'), exactly 2 digit])]).Means IsDistance := by
  have hsign : sign.Means fun text => text = ['+'] ∨ text = ['-'] :=
    means_either (means_single '+') (means_single '-')
  have hminutes := means_andThen (means_optional means_minutes) means_empty
  refine (means_andThen hsign (means_andThen means_pair hminutes)).congr fun text => ?_
  constructor
  case mp =>
    rintro ⟨_, _, rfl, hs, hours, _, rfl, hh, minutes, _, rfl, hm, rfl⟩
    rcases hs with rfl | rfl
    · exact ⟨'+', hours, minutes, by simp, .inl rfl, hh, hm⟩
    · exact ⟨'-', hours, minutes, by simp, .inr rfl, hh, hm⟩
  case mpr =>
    rintro ⟨sign, hours, minutes, rfl, hs, hh, hm⟩
    have hs : [sign] = ['+'] ∨ [sign] = ['-'] := by simpa using hs
    exact ⟨[sign], _, rfl, hs, hours, minutes, rfl, hh, minutes, [], (List.append_nil _).symm, hm, rfl⟩

theorem means_timeTail : timeTail.Means IsTail := by
  have hzone := means_either (means_single 'z') (means_either (means_single 'Z') means_distance)
  have h := means_andThen (means_optional means_fraction)
    (means_andThen (means_optional hzone) means_empty)
  refine h.congr fun text => ?_
  constructor
  case mp =>
    rintro ⟨fraction, _, rfl, hf, zone, _, rfl, hz, rfl⟩
    exact ⟨fraction, zone, by simp, hf, hz⟩
  case mpr =>
    rintro ⟨fraction, zone, rfl, hf, hz⟩
    exact ⟨fraction, zone, rfl, hf, zone, [], (List.append_nil _).symm, hz, rfl⟩

-- A text that writes a time: its fields and what follows them.
def Writes (text : String) (hour minute second : Nat) : Prop :=
  (hour < 100 ∧ minute < 100 ∧ second < 100) ∧
    ∃ tail, text.toList = clock hour minute second ++ tail ∧ IsTail tail

def IsInRange (hour minute second : Nat) : Prop := hour ≤ 23 ∧ minute ≤ 59 ∧ second ≤ 60

theorem isTime_iff (text : String) :
    isTime text = true ↔ ∃ hour minute second, Writes text hour minute second ∧ hour ≤ 23 ∧ minute ≤ 59 := by
  constructor
  case mp =>
    intro h
    unfold isTime at h
    split at h
    case h_2 => simp at h
    case h_1 hour minute second rest hc =>
      obtain ⟨hb, hl⟩ := readClock?_eq_some.mp hc
      simp only [Bool.and_eq_true, decide_eq_true_eq, means_timeTail.covers_iff,
        String.toList_ofList] at h
      exact ⟨hour, minute, second, ⟨hb, rest, hl, h.right⟩, by omega, by omega⟩
  case mpr =>
    rintro ⟨hour, minute, second, ⟨hb, tail, hl, ht⟩, hh, hm⟩
    have hc := readClock?_eq_some.mpr ⟨hb, hl⟩
    have ht : timeTail.covers (String.ofList tail) = true := by
      rwa [means_timeTail.covers_iff, String.toList_ofList]
    simp only [isTime, hc, ht, Bool.and_true, Bool.and_eq_true, decide_eq_true_eq]
    omega

theorem Writes.unique {text : String} {hour' minute' second' : Nat} (h : Writes text hour minute second)
    (h' : Writes text hour' minute' second') : hour = hour' ∧ minute = minute' ∧ second = second' := by
  obtain ⟨hb, tail, hl, _⟩ := h
  obtain ⟨hb', tail', hl', _⟩ := h'
  have hc := readClock?_eq_some.mpr ⟨hb, hl⟩
  rw [readClock?_eq_some.mpr ⟨hb', hl'⟩] at hc
  cases hc
  exact ⟨rfl, rfl, rfl⟩

-- The format admits a time that is in range but for its seconds, which may be any two digits.
theorem admits_time_iff (text : String) :
    ((ofName? "time").map (admits text) = some true ↔
      ∃ hour minute second, Writes text hour minute second ∧ hour ≤ 23 ∧ minute ≤ 59) ∧
    (((ofName? "time").map (admits text) = some true →
        ∃ hour minute second, Writes text hour minute second ∧ IsInRange hour minute second) ↔
      ∀ hour minute second, Writes text hour minute second → hour ≤ 23 → minute ≤ 59 → second ≤ 60) := by
  have hf : ofName? "time" = some time := by decide
  have ha : (ofName? "time").map (admits text) = some true ↔
      ∃ hour minute second, Writes text hour minute second ∧ hour ≤ 23 ∧ minute ≤ 59 := by
    rw [hf, Option.map_some, Option.some.injEq, admits, isTime_iff]
  refine ⟨ha, ?_⟩
  rw [ha]
  constructor
  case mp =>
    intro h hour minute second hw hh hm
    obtain ⟨_, _, _, hw', _, _, hs⟩ := h ⟨hour, minute, second, hw, hh, hm⟩
    obtain ⟨_, _, rfl⟩ := hw.unique hw'
    exact hs
  case mpr =>
    rintro h ⟨hour, minute, second, hw, hh, hm⟩
    exact ⟨hour, minute, second, hw, hh, hm, h hour minute second hw hh hm⟩

theorem not_isInRange_lateSecond :
    ¬ ((ofName? "time").map (admits "12:00:99") = some true →
      ∃ hour minute second, Writes "12:00:99" hour minute second ∧ IsInRange hour minute second) := by
  intro h
  have hl : "12:00:99".toList = clock 12 0 99 ++ [] := by decide
  have hw : Writes "12:00:99" 12 0 99 :=
    ⟨by decide, [], hl, [], [], rfl, .inl rfl, .inl rfl⟩
  have ha : (ofName? "time").map (admits "12:00:99") = some true :=
    congrArg some ((isTime_iff _).mpr ⟨12, 0, 99, hw, by decide, by decide⟩)
  obtain ⟨_, _, _, hw', hr⟩ := h ha
  obtain ⟨_, _, rfl⟩ := hw.unique hw'
  exact absurd hr.right.right (by decide)

end JsonSchema.Format

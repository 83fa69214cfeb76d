import JsonSchema.Pattern.Basic
import JsonSchema.Proofs.Text.CharSet

namespace JsonSchema.Pattern

variable {p q r : Pattern} {ps : List Pattern} {before? after? : Option Char} {c : Char}
  {text front back rest : List Char} {n least : Nat} {more : Option Nat}

-- What comes after the first part of a text, and what comes before the second one.
def nextOf (text : List Char) (after? : Option Char) : Option Char := text.head?.or after?

def lastOf (before? : Option Char) (text : List Char) : Option Char := text.getLast?.or before?

@[simp]
theorem nextOf_nil : nextOf [] after? = after? := rfl

@[simp]
theorem nextOf_cons : nextOf (c :: rest) after? = some c := rfl

@[simp]
theorem lastOf_nil : lastOf before? [] = before? := rfl

@[simp]
theorem lastOf_cons : lastOf before? (c :: rest) = lastOf (some c) rest := by
  cases rest <;> simp [lastOf, List.getLast?_cons]

-- So many copies one after the other, each of which reads its part of the text.
def Times (reads : Option Char → List Char → Option Char → Prop) :
    Nat → Option Char → List Char → Option Char → Prop
  | 0, _, text, _ => text = []
  | n + 1, before?, text, after? =>
    ∃ front back, text = front ++ back ∧ reads before? front (nextOf back after?) ∧
      Times reads n (lastOf before? front) back after?

def InRange (least : Nat) (more : Option Nat) (n : Nat) : Prop :=
  least ≤ n ∧ ∀ m, more = some m → n ≤ least + m

-- A pattern reads a text that stands between two characters.
def Reads : Pattern → Option Char → List Char → Option Char → Prop
  | empty, _, text, _ => text = []
  | char chars, _, text, _ => ∃ c, text = [c] ∧ chars.contains c = true
  | assert a, before?, text, after? => text = [] ∧ a.holdsAt ⟨before?, after?⟩ = true
  | seq p q, before?, text, after? =>
    ∃ front back, text = front ++ back ∧ p.Reads before? front (nextOf back after?) ∧
      q.Reads (lastOf before? front) back after?
  | either p q, before?, text, after? => p.Reads before? text after? ∨ q.Reads before? text after?
  | copies p least more, before?, text, after? =>
    ∃ n, InRange least more n ∧ Times p.Reads n before? text after?

theorem Times.mono {reads reads' : Option Char → List Char → Option Char → Prop}
    (h : ∀ before? text after?, reads before? text after? → reads' before? text after?)
    (ht : Times reads n before? text after?) : Times reads' n before? text after? := by
  induction n generalizing before? text with
  | zero => exact ht
  | succ n ih =>
    obtain ⟨front, back, he, hr, hb⟩ := ht
    exact ⟨front, back, he, h _ _ _ hr, ih hb⟩

theorem reads_seq_empty : (seq p empty).Reads before? text after? ↔ p.Reads before? text after? := by
  simp only [Reads]
  constructor
  case mp =>
    rintro ⟨front, back, rfl, hp, rfl⟩
    simpa using hp
  case mpr => exact fun h => ⟨text, [], by simp, h, rfl⟩

theorem reads_empty_seq : (seq empty q).Reads before? text after? ↔ q.Reads before? text after? := by
  simp only [Reads]
  constructor
  case mp =>
    rintro ⟨front, back, rfl, rfl, hq⟩
    exact hq
  case mpr => exact fun h => ⟨[], text, rfl, rfl, h⟩

theorem reads_andThen :
    (andThen p q).Reads before? text after? ↔ (seq p q).Reads before? text after? := by
  unfold andThen
  split
  case h_1 => exact reads_empty_seq.symm
  case h_2 => exact reads_seq_empty.symm
  case h_3 => rfl

-- A pattern that reads these texts and no others, whatever is around them.
def Means (p : Pattern) (texts : List Char → Prop) : Prop :=
  ∀ before? text after?, p.Reads before? text after? ↔ texts text

section Means

variable {texts texts' : List Char → Prop}

theorem Means.congr (h : p.Means texts) (ht : ∀ text, texts text ↔ texts' text) : p.Means texts' :=
  fun before? text after? => (h before? text after?).trans (ht text)

theorem means_empty : empty.Means (· = []) := fun _ _ _ => Iff.rfl

theorem means_char (chars : CharSet) :
    (char chars).Means fun text => ∃ c, text = [c] ∧ chars.contains c = true :=
  fun _ _ _ => Iff.rfl

theorem means_either (hp : p.Means texts) (hq : q.Means texts') :
    (either p q).Means fun text => texts text ∨ texts' text :=
  fun _ _ _ => or_congr (hp _ _ _) (hq _ _ _)

theorem means_andThen (hp : p.Means texts) (hq : q.Means texts') :
    (andThen p q).Means fun text => ∃ front back, text = front ++ back ∧ texts front ∧ texts' back := by
  intro before? text after?
  rw [reads_andThen]
  simp only [Reads, hp _ _ _, hq _ _ _]

theorem means_copies (hp : p.Means texts) (least : Nat) (more : Option Nat) :
    (copies p least more).Means fun text => ∃ parts : List (List Char),
      InRange least more parts.length ∧ text = parts.flatten ∧ ∀ part ∈ parts, texts part := by
  intro before? text after?
  have ht : ∀ n before? text after?, Times p.Reads n before? text after? ↔
      ∃ parts : List (List Char),
        parts.length = n ∧ text = parts.flatten ∧ ∀ part ∈ parts, texts part := by
    intro n
    induction n with
    | zero =>
      intro before? text after?
      simp [Times]
    | succ n ih =>
      intro before? text after?
      simp only [Times, hp _ _ _, ih]
      constructor
      case mp =>
        rintro ⟨front, _, rfl, hf, parts, rfl, rfl, hps⟩
        exact ⟨front :: parts, rfl, rfl, List.forall_mem_cons.mpr ⟨hf, hps⟩⟩
      case mpr =>
        rintro ⟨parts, hl, rfl, hps⟩
        cases parts with
        | nil => simp at hl
        | cons front parts =>
          have ⟨hf, hrest⟩ := List.forall_mem_cons.mp hps
          exact ⟨front, parts.flatten, rfl, hf, parts, Nat.succ.inj hl, rfl, hrest⟩
  simp only [Reads, ht]
  constructor
  case mp  => exact fun ⟨_, hn, parts, hl, h⟩ => ⟨parts, hl ▸ hn, h⟩
  case mpr => exact fun ⟨parts, hn, h⟩ => ⟨parts.length, hn, parts, rfl, h⟩

theorem means_many (hp : p.Means texts) :
    (many p).Means fun text =>
      ∃ parts : List (List Char), text = parts.flatten ∧ ∀ part ∈ parts, texts part :=
  (means_copies hp 0 none).congr fun text => by simp [InRange]

theorem means_optional (hp : p.Means texts) : (optional p).Means fun text => text = [] ∨ texts text := by
  refine (means_copies hp 0 (some 1)).congr fun text => ?_
  constructor
  case mp =>
    rintro ⟨parts, ⟨_, hle⟩, rfl, hps⟩
    match parts with
    | []          => exact .inl rfl
    | [part]      => exact .inr (by simpa using hps)
    | _ :: _ :: _ => simp at hle
  case mpr =>
    rintro (rfl | ht)
    · exact ⟨[], by simp [InRange], rfl, by simp⟩
    · exact ⟨[text], by simp [InRange], by simp, by simpa using ht⟩

theorem means_copies_char (chars : CharSet) (least : Nat) (more : Option Nat) :
    (copies (char chars) least more).Means fun text =>
      InRange least more text.length ∧ ∀ c ∈ text, chars.contains c = true := by
  refine (means_copies (means_char chars) least more).congr fun text => ?_
  constructor
  case mp =>
    rintro ⟨parts, hn, rfl, hps⟩
    have hall : parts.flatten.length = parts.length ∧ ∀ c ∈ parts.flatten, chars.contains c = true := by
      clear hn
      induction parts with
      | nil => simp
      | cons part rest ih =>
        obtain ⟨⟨c, rfl, hc⟩, hrest⟩ := List.forall_mem_cons.mp hps
        obtain ⟨hl, hm⟩ := ih hrest
        exact ⟨congrArg (· + 1) hl, List.forall_mem_cons.mpr ⟨hc, hm⟩⟩
    exact ⟨hall.left ▸ hn, hall.right⟩
  case mpr =>
    rintro ⟨hn, hm⟩
    exact ⟨text.map ([·]), by rwa [List.length_map], (List.flatMap_singleton' text).symm, by simpa using hm⟩

theorem means_single (c : Char) : (single c).Means (· = [c]) := by
  refine (means_char _).congr fun text => ?_
  simp only [CharSet.contains_single]
  exact ⟨fun ⟨_, ht, hc⟩ => hc ▸ ht, fun h => ⟨c, h, rfl⟩⟩

theorem means_literal (s : String) : (literal s).Means (· = s.toList) := by
  rw [literal]
  induction s.toList with
  | nil => exact means_empty
  | cons c rest ih =>
    refine (means_andThen (means_single c) ih).congr fun text => ?_
    constructor
    case mp  => rintro ⟨_, _, rfl, rfl, rfl⟩; rfl
    case mpr => rintro rfl; exact ⟨[c], rest, rfl, rfl, rfl⟩

end Means

end JsonSchema.Pattern

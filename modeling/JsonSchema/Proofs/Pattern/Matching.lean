import JsonSchema.Proofs.Pattern.Reading

namespace JsonSchema.Pattern

variable {p q r : Pattern} {ps qs kept : List Pattern} {before? after? : Option Char} {c : Char}
  {text rest : List Char} {n m least : Nat} {more : Option Nat}

theorem times_nil_iff {reads : Option Char → List Char → Option Char → Prop} :
    Times reads n before? [] after? ↔ n = 0 ∨ reads before? [] after? := by
  induction n with
  | zero => simp [Times]
  | succ n ih =>
    simp only [Times, List.nil_eq, List.append_eq_nil_iff, Nat.add_eq_zero_iff, Nat.one_ne_zero,
      and_false, false_or]
    constructor
    case mp =>
      rintro ⟨_, _, ⟨rfl, rfl⟩, h, _⟩
      exact h
    case mpr => exact fun h => ⟨[], [], ⟨rfl, rfl⟩, h, ih.mpr (.inr h)⟩

theorem nullable_iff : p.nullable ⟨before?, after?⟩ = true ↔ p.Reads before? [] after? := by
  induction p with
  | empty => simp [nullable, Reads]
  | char chars => simp [nullable, Reads]
  | assert a => simp [nullable, Reads]
  | seq p q ihp ihq =>
    simp only [nullable, Bool.and_eq_true, ihp, ihq, Reads, List.nil_eq, List.append_eq_nil_iff]
    constructor
    case mp =>
      rintro ⟨hp, hq⟩
      exact ⟨[], [], ⟨rfl, rfl⟩, hp, hq⟩
    case mpr =>
      rintro ⟨_, _, ⟨rfl, rfl⟩, hp, hq⟩
      exact ⟨hp, hq⟩
  | either p q ihp ihq => simp only [nullable, Bool.or_eq_true, ihp, ihq, Reads]
  | copies p least more ih =>
    simp only [nullable, Bool.or_eq_true, decide_eq_true_eq, ih, Reads, times_nil_iff]
    constructor
    case mp =>
      exact fun h => ⟨least, ⟨Nat.le_refl _, fun _ _ => Nat.le_add_right _ _⟩, h⟩
    case mpr =>
      rintro ⟨n, ⟨hn, _⟩, h⟩
      exact h.imp_left fun h0 => by omega

theorem times_cons_iff {reads : Option Char → List Char → Option Char → Prop} :
    Times reads n before? (c :: rest) after? ↔
      ∃ m < n, (m + 1 = n ∨ reads before? [] (some c)) ∧ ∃ front back, rest = front ++ back ∧
        reads before? (c :: front) (nextOf back after?) ∧
        Times reads m (lastOf (some c) front) back after? := by
  induction n with
  | zero => simp [Times]
  | succ n ih =>
    simp only [Times]
    constructor
    case mp =>
      rintro ⟨front, back, he, hf, hb⟩
      cases front with
      | nil =>
        obtain rfl : c :: rest = back := he
        obtain ⟨m, hm, _, h⟩ := ih.mp hb
        exact ⟨m, by omega, .inr hf, h⟩
      | cons first front =>
        obtain ⟨rfl, rfl⟩ := List.cons.inj he
        exact ⟨n, by omega, .inl rfl, front, back, rfl, hf, by simpa using hb⟩
    case mpr =>
      rintro ⟨m, hm, hor, front, back, rfl, hf, hb⟩
      by_cases hmn : m = n
      case pos =>
        subst hmn
        exact ⟨c :: front, back, rfl, hf, by simpa using hb⟩
      case neg =>
        have he := hor.resolve_left (by omega)
        exact ⟨[], c :: (front ++ back), rfl, he,
          ih.mpr ⟨m, by omega, .inr he, front, back, rfl, hf, hb⟩⟩

-- So many copies may follow the one that reads the first character if there may be so many with it, and
-- with the empty ones before it.
theorem exists_mem_copiesLeft {emptyHere : Bool} :
    (∃ left ∈ copiesLeft emptyHere least more, InRange left.1 left.2 m) ↔
      ∃ n, m < n ∧ (m + 1 = n ∨ emptyHere = true) ∧ InRange least more n := by
  induction least with
  | zero =>
    cases more with
    | none =>
      simp only [copiesLeft, List.mem_singleton, exists_eq_left, InRange]
      exact ⟨fun _ => ⟨m + 1, by omega, .inl rfl, by simp⟩, fun _ => by simp⟩
    | some k =>
      cases k with
      | zero =>
        simp only [copiesLeft, List.not_mem_nil, false_and, exists_false, false_iff, InRange]
        rintro ⟨n, hm, _, _, hn⟩
        have := hn 0 rfl
        omega
      | succ k =>
        simp only [copiesLeft, List.mem_singleton, exists_eq_left, InRange, Option.some.injEq,
          forall_eq']
        constructor
        case mp => exact fun h => ⟨m + 1, by omega, .inl rfl, by omega⟩
        case mpr =>
          rintro ⟨n, hm, _, hn⟩
          omega
  | succ least ih =>
    simp only [copiesLeft, List.mem_cons, exists_eq_or_imp]
    have hup {n : Nat} : InRange (least + 1) more (n + 1) ↔ InRange least more n := by
      simp only [InRange, Nat.add_le_add_iff_right]
      refine and_congr_right fun _ => forall₂_congr fun k _ => ?_
      omega
    cases emptyHere with
    | false =>
      simp only [Bool.false_eq_true, if_false, List.not_mem_nil, false_and, exists_false, or_false]
      constructor
      case mp  => exact fun h => ⟨m + 1, by omega, rfl, hup.mpr h⟩
      case mpr =>
        rintro ⟨n, _, rfl, h⟩
        exact hup.mp h
    | true =>
      simp only [if_true, ih, or_true, true_and]
      constructor
      case mp =>
        rintro (h | ⟨n, hm, h⟩)
        · exact ⟨m + 1, by omega, hup.mpr h⟩
        · exact ⟨n + 1, by omega, hup.mpr h⟩
      case mpr =>
        rintro ⟨n, hm, h⟩
        obtain ⟨n, rfl⟩ := Nat.exists_eq_add_one_of_ne_zero (by omega : n ≠ 0)
        by_cases hmn : m = n
        case pos => exact .inl (hmn ▸ hup.mp h)
        case neg => exact .inr ⟨n, by omega, hup.mp h⟩

theorem reads_seq_cons_iff : (seq p q).Reads before? (c :: rest) after? ↔
    (p.Reads before? [] (some c) ∧ q.Reads before? (c :: rest) after?) ∨
      ∃ front back, rest = front ++ back ∧ p.Reads before? (c :: front) (nextOf back after?) ∧
        q.Reads (lastOf (some c) front) back after? := by
  simp only [Reads]
  constructor
  case mp =>
    rintro ⟨front, back, he, hp, hq⟩
    cases front with
    | nil =>
      obtain rfl : c :: rest = back := he
      exact .inl ⟨hp, hq⟩
    | cons first front =>
      obtain ⟨rfl, rfl⟩ := List.cons.inj he
      exact .inr ⟨front, back, rfl, hp, by simpa using hq⟩
  case mpr =>
    rintro (⟨hp, hq⟩ | ⟨front, back, rfl, hp, hq⟩)
    · exact ⟨[], c :: rest, rfl, hp, hq⟩
    · exact ⟨c :: front, back, rfl, hp, by simpa using hq⟩

theorem reads_copies_cons_iff : (copies p least more).Reads before? (c :: rest) after? ↔
    ∃ left ∈ copiesLeft (p.nullable ⟨before?, some c⟩) least more, ∃ front back,
      rest = front ++ back ∧ p.Reads before? (c :: front) (nextOf back after?) ∧
        (copies p left.1 left.2).Reads (lastOf (some c) front) back after? := by
  simp only [Reads, times_cons_iff, ← nullable_iff]
  constructor
  case mp =>
    rintro ⟨n, hn, m, hm, hor, front, back, he, hf, hb⟩
    obtain ⟨left, hl, hr⟩ := exists_mem_copiesLeft.mpr ⟨n, hm, hor, hn⟩
    exact ⟨left, hl, front, back, he, hf, m, hr, hb⟩
  case mpr =>
    rintro ⟨left, hl, front, back, he, hf, m, hr, hb⟩
    obtain ⟨n, hm, hor, hn⟩ := exists_mem_copiesLeft.mp ⟨left, hl, hr⟩
    exact ⟨n, hn, m, hm, hor, front, back, he, hf, hb⟩

def AnyReads (ps : List Pattern) (before? : Option Char) (text : List Char) (after? : Option Char) :
    Prop :=
  ∃ p ∈ ps, p.Reads before? text after?

theorem exists_andThen_reads_iff :
    (∃ r ∈ ps, (andThen r q).Reads before? text after?) ↔
      ∃ front back, text = front ++ back ∧ AnyReads ps before? front (nextOf back after?) ∧
        q.Reads (lastOf before? front) back after? := by
  simp only [reads_andThen, Reads]
  constructor
  case mp =>
    rintro ⟨r, hr, front, back, he, hf, hb⟩
    exact ⟨front, back, he, ⟨r, hr, hf⟩, hb⟩
  case mpr =>
    rintro ⟨front, back, he, ⟨r, hr, hf⟩, hb⟩
    exact ⟨r, hr, front, back, he, hf, hb⟩

-- The induction is on the pattern: a part of it that reads the first character leaves a residual, which
-- what follows the part is put behind.
theorem reads_cons_iff : p.Reads before? (c :: rest) after? ↔
    AnyReads (p.residuals before? c) (some c) rest after? := by
  induction p generalizing before? rest after? with
  | empty => simp [Reads, AnyReads, residuals]
  | assert a => simp [Reads, AnyReads, residuals]
  | char chars =>
    simp only [Reads, AnyReads, residuals, List.cons.injEq]
    split
    case isTrue h =>
      simp only [List.mem_singleton, exists_eq_left, Reads]
      constructor
      case mp =>
        rintro ⟨_, he, _⟩
        exact he.right
      case mpr => exact fun he => ⟨c, ⟨rfl, he⟩, h⟩
    case isFalse h =>
      simp only [List.not_mem_nil, false_and, exists_false, iff_false]
      rintro ⟨_, ⟨rfl, _⟩, hc⟩
      exact h hc
  | either p q ihp ihq =>
    simp only [Reads, AnyReads, residuals, ihp, ihq, List.mem_append, or_and_right, exists_or]
  | seq p q ihp ihq =>
    have hfirst : AnyReads ((p.residuals before? c).map (andThen · q)) (some c) rest after? ↔
        ∃ front back, rest = front ++ back ∧ p.Reads before? (c :: front) (nextOf back after?) ∧
          q.Reads (lastOf (some c) front) back after? := by
      simp only [ihp, ← exists_andThen_reads_iff]
      simp only [AnyReads, List.mem_map]
      constructor
      case mp =>
        rintro ⟨_, ⟨r, hr, rfl⟩, h⟩
        exact ⟨r, hr, h⟩
      case mpr =>
        rintro ⟨r, hr, h⟩
        exact ⟨_, ⟨r, hr, rfl⟩, h⟩
    rw [reads_seq_cons_iff, ← hfirst, ← nullable_iff, ihq, residuals]
    split
    case isTrue h =>
      simp only [h, true_and, AnyReads, List.mem_append, or_and_right, exists_or]
      exact or_comm
    case isFalse h => simp only [h, Bool.false_eq_true, false_and, false_or]
  | copies p least more ih =>
    simp only [reads_copies_cons_iff, ih, ← exists_andThen_reads_iff]
    simp only [AnyReads, residuals, List.mem_flatMap, List.mem_map]
    constructor
    case mp =>
      rintro ⟨left, hl, r, hr, h⟩
      exact ⟨_, ⟨r, hr, left, hl, rfl⟩, h⟩
    case mpr =>
      rintro ⟨_, ⟨r, hr, left, hl, rfl⟩, h⟩
      exact ⟨left, hl, r, hr, h⟩

theorem reads_of_subsumes (h : p.subsumes q = true) (hq : q.Reads before? text after?) :
    p.Reads before? text after? := by
  induction p, q using subsumes.induct generalizing before? text after? with
  | case1 p q p' q' ihp ihq =>
    simp only [subsumes, Bool.and_eq_true] at h
    obtain ⟨front, back, he, hf, hb⟩ := hq
    exact ⟨front, back, he, ihp h.left hf, ihq h.right hb⟩
  | case2 p least more p' least' more' ih =>
    simp only [subsumes, Bool.and_eq_true, decide_eq_true_eq] at h
    obtain ⟨⟨hl, hm⟩, hp⟩ := h
    obtain ⟨n, ⟨hn, hle⟩, ht⟩ := hq
    refine ⟨n, ⟨Nat.le_trans hl hn, fun k hk => ?_⟩, ht.mono fun _ _ _ => ih hp⟩
    subst hk
    cases more' with
    | none    => simp at hm
    | some k' =>
      have := hle k' rfl
      simp only [Option.all_some, Option.any_some, decide_eq_true_eq] at hm
      omega
  | case3 p q hseq hcopies =>
    have he : p = q := by
      rw [subsumes] at h
      · exact eq_of_beq h
      · exact hseq
      · exact hcopies
    exact he ▸ hq

theorem anyReads_addAll : AnyReads (addAll kept ps) before? text after? ↔
    AnyReads kept before? text after? ∨ AnyReads ps before? text after? := by
  induction ps generalizing kept with
  | nil => simp [addAll, AnyReads]
  | cons p ps ih =>
    have hps : AnyReads (p :: ps) before? text after? ↔
        p.Reads before? text after? ∨ AnyReads ps before? text after? := by
      simp [AnyReads]
    simp only [addAll]
    split
    case isTrue h =>
      obtain ⟨q, hq, hs⟩ := List.any_eq_true.mp h
      rw [ih, hps]
      have hp : p.Reads before? text after? → AnyReads kept before? text after? :=
        fun hp => ⟨q, hq, reads_of_subsumes hs hp⟩
      exact ⟨Or.imp_right .inr, fun h => h.elim .inl fun h => h.imp_left hp⟩
    case isFalse =>
      have hk : AnyReads (p :: kept.filter (!p.subsumes ·)) before? text after? ↔
          p.Reads before? text after? ∨ AnyReads kept before? text after? := by
        simp only [AnyReads, List.mem_cons, exists_eq_or_imp, List.mem_filter, Bool.not_eq_true']
        constructor
        case mp  => exact Or.imp_right fun ⟨q, hq, h⟩ => ⟨q, hq.left, h⟩
        case mpr =>
          rintro (h | ⟨q, hq, h⟩)
          · exact .inl h
          · cases hs : p.subsumes q with
            | true  => exact .inl (reads_of_subsumes hs h)
            | false => exact .inr ⟨q, ⟨hq, hs⟩, h⟩
      rw [ih, hk, hps, or_assoc, or_left_comm]

theorem anyCovers_iff : anyCovers ps before? text = true ↔ AnyReads ps before? text none := by
  induction text generalizing ps before? with
  | nil => simp only [anyCovers, List.any_eq_true, nullable_iff, AnyReads]
  | cons c rest ih =>
    rw [anyCovers, ih, anyReads_addAll]
    simp only [AnyReads, reads_cons_iff, List.mem_flatMap, List.not_mem_nil, false_and, exists_false,
      false_or]
    constructor
    case mp  => exact fun ⟨r, ⟨p, hp, hr⟩, h⟩ => ⟨p, hp, r, hr, h⟩
    case mpr => exact fun ⟨p, hp, r, hr, h⟩ => ⟨r, ⟨p, hp, hr⟩, h⟩

theorem covers_iff {s : String} : p.covers s = true ↔ p.Reads none s.toList none := by
  simp [covers, anyCovers_iff, AnyReads]

theorem Means.covers_iff {texts : List Char → Prop} {s : String} (h : p.Means texts) :
    p.covers s = true ↔ texts s.toList :=
  Pattern.covers_iff.trans (h none s.toList none)

end JsonSchema.Pattern

import JsonSchema.Pattern.Escape

namespace JsonSchema.Pattern

-- A set with the number of levels that its text is nested in.
structure Bracket where
  chars : CharSet
  depth : Nat := 0

namespace Bracket

inductive Operation where
  | intersection
  | difference
  | symmetricDifference

def Operation.apply : Operation → CharSet → CharSet → CharSet
  | intersection => .inter
  | difference => .diff
  | symmetricDifference => .symmDiff

def join : List Bracket → Bracket
  | [] => { chars := .empty }
  | [b] => b
  | bs => ⟨.unions (bs.map (·.chars)), (bs.map (·.depth)).foldl max 0 + 1⟩

def applyTo (f : Flags) (left : Option (Bracket × Operation)) (right : Bracket) : Option Bracket :=
  match left with
  | none => some right
  | some (left, op) => do
    let a ← f.meant? false left.chars
    let b ← f.meant? false right.chars
    some ⟨op.apply a b, max left.depth right.depth + 1⟩

def asciiSet? (name : String) : Option CharSet :=
  match name with
  | "alnum" => some ⟨[(48, 57), (65, 90), (97, 122)]⟩
  | "alpha" => some ⟨[(65, 90), (97, 122)]⟩
  | "ascii" => some (.range 0 0x7F)
  | "blank" => some ⟨[(9, 9), (32, 32)]⟩
  | "cntrl" => some ⟨[(0, 31), (127, 127)]⟩
  | "digit" => some Escape.asciiDigit
  | "graph" => some (.range 33 126)
  | "lower" => some (.range 97 122)
  | "print" => some (.range 32 126)
  | "punct" => some ⟨[(33, 47), (58, 64), (91, 96), (123, 126)]⟩
  | "space" => some Escape.asciiSpace
  | "upper" => some (.range 65 90)
  | "word" => some Escape.asciiWord
  | "xdigit" => some ⟨[(48, 57), (65, 70), (97, 102)]⟩
  | _ => none

-- A named set of ASCII characters after its opening bracket, and whether it is negated.
def readAsciiSet? : List Char → Option ((CharSet × Bool) × List Char)
  | ':' :: cs => do
    let (negated, cs) :=
      match cs with
      | '^' :: rest => (true, rest)
      | cs => (false, cs)
    let (name, cs) := cs.span (· != ':')
    match cs with
    | ':' :: ']' :: rest =>
      let chars ← asciiSet? (String.ofList name)
      some ((chars, negated), rest)
    | _ => none
  | _ => none

def readItem? (f : Flags) : List Char → Option (Escape × List Char)
  | [] => none
  | '\\' :: rest => Escape.read? f rest
  | c :: rest => some (.char c, rest)

-- The characters between two; without Unicode they have to be ASCII.
def rangeSet? (f : Flags) (low high : Char) : Option CharSet :=
  if low ≤ high && (f.unicode || high.toNat < 0x80) then some (.range low.toNat high.toNat)
  else none

def itemSet? (f : Flags) : Escape → Option CharSet
  | .char c => rangeSet? f c c
  | .set chars => some chars
  | .place _ => none

-- The next character after blanks, and after the blanks behind the sign of a comment.
def peek? (f : Flags) (cs : List Char) : Option Char :=
  if f.verbose then
    match cs.dropWhile isSpace with
    | '#' :: rest => (rest.dropWhile isSpace).head?
    | rest => rest.head?
  else
    cs.head?

-- An item or a range. A hyphen makes a range unless another one or the closing bracket follows.
def readRange? (f : Flags) (cs : List Char) : Option (CharSet × List Char) := do
  let (first, rest) ← readItem? f cs
  match f.skip rest with
  | [] => none
  | '-' :: after =>
    if peek? f after = some ']' || peek? f after = some '-' then
      some (← itemSet? f first, '-' :: after)
    else
      let (last, rest) ← readItem? f (f.skip after)
      match first, last with
      | .char low, .char high => some (← rangeSet? f low high, rest)
      | _, _ => none
  | rest => some (← itemSet? f first, rest)

mutual
def read? (f : Flags) : (fuel : Nat) → List Char → Option (Bracket × List Char)
  | 0, _ => none
  | fuel + 1, cs => do
    let (negated, cs) :=
      match f.skip cs with
      | '^' :: rest => (true, rest)
      | cs => (false, cs)
    let (b, rest) ← readItems? f fuel true none [] cs
    some (⟨← f.meant? negated b.chars, b.depth + 1⟩, rest)

-- The items up to the closing bracket, after what stands before the last operation and the items
-- since then. While only hyphens were read (`opening`), a hyphen is an item and, if there was none,
-- so is a closing bracket.
def readItems? (f : Flags) : (fuel : Nat) → (opening : Bool) → Option (Bracket × Operation) →
    List Bracket → List Char → Option (Bracket × List Char)
  | 0, _, _, _, _ => none
  | fuel + 1, opening, left, items, cs =>
    let operation (op : Operation) (rest : List Char) := do
      readItems? f fuel false (some (← applyTo f left (join items), op)) [] rest
    match f.skip cs with
    | [] => none
    | '[' :: rest =>
      match readAsciiSet? rest with
      | some ((chars, negated), rest) => do
        let b : Bracket := { chars := ← f.meant? negated chars }
        readItems? f fuel false left (b :: items) rest
      | none => do
        let (b, rest) ← read? f fuel rest
        readItems? f fuel false left (b :: items) rest
    | ']' :: rest =>
      if opening && items.isEmpty then
        readItems? f fuel false left [{ chars := .single ']' }] rest
      else do
        some (← applyTo f left (join items), rest)
    | '-' :: rest =>
      if opening then readItems? f fuel true left ({ chars := .single '-' } :: items) rest
      else if rest.head? = some '-' then operation .difference (rest.drop 1)
      else do
        let (chars, rest) ← readRange? f ('-' :: rest)
        readItems? f fuel false left ({ chars } :: items) rest
    | '&' :: '&' :: rest => operation .intersection rest
    | '~' :: '~' :: rest => operation .symmetricDifference rest
    | cs => do
      let (chars, rest) ← readRange? f cs
      readItems? f fuel false left ({ chars } :: items) rest
end

end Bracket

end JsonSchema.Pattern

import JsonSchema.Pattern.Basic
import JsonSchema.Pattern.Flags
import JsonSchema.Unicode.Names

namespace JsonSchema.Pattern

inductive Escape where
  | char (c : Char)
  | set (chars : CharSet)
  | place (assertion : Assertion)

namespace Escape

-- What is written before a closing brace, and what follows it. Blanks and comments do not count
-- where they have no meaning.
def readBraced? (f : Flags) (inComment : Bool) : List Char → Option (List Char × List Char)
  | [] => none
  | c :: rest =>
    if inComment then readBraced? f (c != '\n') rest
    else if f.verbose && isSpace c then readBraced? f false rest
    else if f.verbose && c = '#' then readBraced? f true rest
    else if c = '}' then some ([], rest)
    else (readBraced? f false rest).map fun (text, rest) => (c :: text, rest)

def hexDigit? (c : Char) : Option Nat :=
  let n := c.toNat
  if 48 ≤ n && n ≤ 57 then some (n - 48)
  else if 97 ≤ n && n ≤ 102 then some (n - 87)
  else if 65 ≤ n && n ≤ 70 then some (n - 55)
  else none

def hexValue? (digits : List Char) : Option Nat :=
  digits.foldlM (fun n c => (hexDigit? c).map (16 * n + ·)) 0

def charOfCode? (n : Nat) : Option Char := if n.isValidChar then some (Char.ofNat n) else none

def readDigits? (f : Flags) : Nat → List Char → Option (List Char × List Char)
  | 0, cs => some ([], cs)
  | _ + 1, [] => none
  | n + 1, c :: rest =>
    (readDigits? f n (f.skip rest)).map fun (digits, rest) => (c :: digits, rest)

-- A character by its code point: in braces, or with a certain number of digits. Without Unicode,
-- two digits stand for a byte, and only those of ASCII are characters.
def readCode? (f : Flags) (count : Nat) (cs : List Char) : Option (Escape × List Char) :=
  match f.skip cs with
  | '{' :: rest => do
    let (digits, rest) ← readBraced? f false rest
    if digits.isEmpty then none
    let c ← charOfCode? (← hexValue? digits)
    some (.char c, rest)
  | cs => do
    let (digits, rest) ← readDigits? f count cs
    let n ← hexValue? digits
    if count = 2 && !f.unicode && n ≥ 0x80 then none
    let c ← charOfCode? n
    some (.char c, rest)

-- The characters before the first that satisfies `p` for itself and its successor, and those after
-- it.
def splitAt? (p : Char → Option Char → Bool) : List Char → Option (List Char × List Char)
  | [] => none
  | c :: rest =>
    if p c rest.head? then some ([], rest)
    else (splitAt? p rest).map fun (before, after) => (c :: before, after)

-- The set of a name in braces, which may be given as a property and its value, and whether it is
-- meant by what is not in it.
def namedSet? (name : List Char) : Option (CharSet × Bool) :=
  match splitAt? (fun c next => c = '!' && next = some '=') name with
  | some (property, value) => (Unicode.setOfValue? property (value.drop 1)).map (·, true)
  | none =>
    match splitAt? (fun c _ => c = ':') name <|> splitAt? (fun c _ => c = '=') name with
    | some (property, value) => (Unicode.setOfValue? property value).map (·, false)
    | none => (Unicode.set? name).map (·, false)

def readNamed? (f : Flags) (negated : Bool) (cs : List Char) : Option (Escape × List Char) := do
  let (name, rest) ←
    match f.skip cs with
    | [] => none
    | '{' :: rest => readBraced? f false rest
    | c :: rest => if c = '\\' then none else some ([c], rest)
  if !f.unicode then none
  let (chars, other) ← namedSet? name
  some (.set (← f.meant? (negated != other) chars), rest)

def asciiDigit : CharSet := .range 48 57

def asciiSpace : CharSet := ⟨[(9, 13), (32, 32)]⟩

def asciiWord : CharSet := ⟨[(48, 57), (65, 90), (95, 95), (97, 122)]⟩

def wordChars (f : Flags) : CharSet := if f.unicode then Unicode.word else asciiWord

-- The digits, the blanks and the characters of words, by a letter; a capital is for the others.
def classSet? (f : Flags) (letter : Char) : Option CharSet := do
  let chars ←
    match letter with
    | 'd' | 'D' => some (if f.unicode then Unicode.decimalNumber else asciiDigit)
    | 's' | 'S' => some (if f.unicode then Unicode.whiteSpace else asciiSpace)
    | 'w' | 'W' => some (wordChars f)
    | _ => none
  { f with ignoreCase := false }.meant? letter.isUpper chars

def namedEdge? : List Char → Option WordEdge
  | ['s', 't', 'a', 'r', 't'] => some .start
  | ['e', 'n', 'd'] => some .stop
  | ['s', 't', 'a', 'r', 't', '-', 'h', 'a', 'l', 'f'] => some .openStart
  | ['e', 'n', 'd', '-', 'h', 'a', 'l', 'f'] => some .openStop
  | _ => none

-- An edge of a word. A brace after it begins a name if a letter or hyphen comes next.
def readEdge? (f : Flags) (cs : List Char) : Option (Escape × List Char) :=
  let edge (e : WordEdge) := Escape.place (.word e (wordChars f))
  match cs with
  | '{' :: rest =>
    match f.skip rest with
    | [] => none
    | c :: _ =>
      if c.isAlpha || c = '-' then do
        let (name, rest) ← readBraced? f false rest
        some (edge (← namedEdge? name), rest)
      else
        some (edge .boundary, cs)
  | cs => some (edge .boundary, cs)

def control? : Char → Option Char
  | 'a' => some (Char.ofNat 7)
  | 'f' => some (Char.ofNat 12)
  | 't' => some '\t'
  | 'n' => some '\n'
  | 'r' => some '\r'
  | 'v' => some (Char.ofNat 11)
  | _ => none

-- What follows a backslash. Other ASCII characters than letters, digits and angle brackets stand
-- for themselves.
def read? (f : Flags) : List Char → Option (Escape × List Char)
  | [] => none
  | 'x' :: rest => readCode? f 2 rest
  | 'u' :: rest => readCode? f 4 rest
  | 'U' :: rest => readCode? f 8 rest
  | 'p' :: rest => readNamed? f false rest
  | 'P' :: rest => readNamed? f true rest
  | 'A' :: rest => some (.place .textStart, rest)
  | 'z' :: rest => some (.place .textEnd, rest)
  | 'b' :: rest => readEdge? f rest
  | 'B' :: rest => some (.place (.word .notBoundary (wordChars f)), rest)
  | '<' :: rest => some (.place (.word .start (wordChars f)), rest)
  | '>' :: rest => some (.place (.word .stop (wordChars f)), rest)
  | c :: rest =>
    if ['d', 's', 'w', 'D', 'S', 'W'].contains c then (classSet? f c).map (.set ·, rest)
    else if c.isAlphanum then (control? c).map (.char ·, rest)
    else if c.toNat < 0x80 then some (.char c, rest)
    else none

end Escape

end JsonSchema.Pattern

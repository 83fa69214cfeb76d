import JsonSchema.Yaml.Token

-- A string is written plain if that is read as the same string, else between single quotes, and
-- between double quotes if it holds what these cannot hold. A string of several lines is written as
-- a literal block.

namespace JsonSchema.Yaml

def nullWords : List String := ["null", "Null", "NULL", "~"]

def trueWords : List String := ["true", "True", "TRUE"]

def falseWords : List String := ["false", "False", "FALSE"]

def specialNumbers : List String :=
  [".inf", ".Inf", ".INF", "+.inf", "+.Inf", "+.INF", "-.inf", "-.Inf", "-.INF", ".nan", ".NaN",
    ".NAN", "+.nan", "+.NaN", "+.NAN"]

def dropSign : List Char → List Char
  | '+' :: rest => rest
  | '-' :: rest => rest
  | cs => cs

-- Digits after a leading zero, which are no number.
def isZeroPadded (cs : List Char) : Bool :=
  let ds := dropSign cs
  ds.length > 1 && ds.head? = some '0' && ds.all Char.isDigit

def digitsIn? (base : Nat) (ds : List Char) : Option Nat :=
  if ds.isEmpty then none
  else
    (ds.mapM fun c => (Json.hexValue? c).filter (· < base)).map fun vs =>
      vs.foldl (fun n v => base * n + v) 0

-- An integer in base 16, 8 or 2, which one of the widest words holds.
def isBasedInteger (cs : List Char) : Bool :=
  let holds (base : Nat) (ds : List Char) : Bool :=
    match digitsIn? base ds with
    | some n => n < UInt64.size * UInt64.size
    | none => false
  match dropSign cs with
  | '0' :: 'x' :: ds => holds 16 ds
  | '0' :: 'o' :: ds => holds 8 ds
  | '0' :: 'b' :: ds => holds 2 ds
  | _ => false

def splitDecimal (cs : List Char) : List Char × List Char × List Char :=
  let (whole, rest) := cs.span Char.isDigit
  match rest with
  | '.' :: rest =>
    let (fraction, rest) := rest.span Char.isDigit
    (whole, fraction, rest)
  | rest => (whole, [], rest)

-- A decimal number in the range of the binary64 format.
def isDecimal (cs : List Char) : Bool :=
  let (whole, fraction, rest) := splitDecimal (dropSign cs)
  let inRange (exponent : Int) : Bool :=
    let digits := Json.digitsValue (whole ++ fraction)
    (Json.floatLiteral? false digits (exponent - fraction.length)).isSome
  if whole.isEmpty && fraction.isEmpty then false
  else
    match rest with
    | [] => inRange 0
    | e :: rest =>
      let ds := dropSign rest
      (e = 'e' || e = 'E') && !ds.isEmpty && ds.all Char.isDigit &&
        let n : Int := Json.digitsValue ds
        inRange (if rest.head? = some '-' then -n else n)

def isPlainString (s : String) : Bool :=
  let cs := s.toList
  !(s.isEmpty || nullWords.contains s || trueWords.contains s || falseWords.contains s ||
    specialNumbers.contains s || isZeroPadded cs || isBasedInteger cs || isDecimal cs)

-- Whether a character is kept between single quotes and in blocks.
def isWritable (c : Char) : Bool :=
  let n := c.toNat
  n = 0x0A || (0x20 ≤ n && n ≤ 0x7E) || (0xA0 ≤ n && n ≤ 0xFFFD && n ≠ 0xFEFF) || 0x10000 ≤ n

structure Shape where
  -- A mark of the syntax where a plain scalar may not have one.
  marked        : Bool := false
  broken        : Bool := false
  unwritable    : Bool := false
  edgeBlank     : Bool := false
  trailingSpace : Bool := false
  breakSpace    : Bool := false
  spaceBreak    : Bool := false

def endsWord : List Char → Bool
  | [] => true
  | c :: _ => isBlank c || isBreak c

def isOpeningMark (c : Char) : Bool :=
  "#,[]\x7b\x7d&*!|>\"%@".toList.contains c || c.toNat = 39 || c.toNat = 0x60

def isMark (first : Bool) (before : Option Char) (c : Char) (rest : List Char) : Bool :=
  if first then
    isOpeningMark c || ((c = '?' || c = ':' || c = '-') && endsWord rest)
  else
    (c = ':' && endsWord rest) ||
      (c = '#' && match before with
        | some b => isBlank b || isBreak b
        | none => true)

def shapeFrom (first : Bool) (before : Option Char) : List Char → Shape
  | [] => {}
  | c :: rest =>
    let later := shapeFrom false (some c) rest
    let edge := (first || rest.isEmpty) && (c = ' ' || isBreak c)
    { marked := isMark first before c rest || later.marked
      broken := isBreak c || later.broken
      unwritable := !isWritable c || later.unwritable
      edgeBlank := edge || later.edgeBlank
      trailingSpace := (rest.isEmpty && c = ' ') || later.trailingSpace
      breakSpace := (c = ' ' && before.any isBreak) || later.breakSpace
      spaceBreak := (isBreak c && before = some ' ') || later.spaceBreak }

def shape (s : String) : Shape :=
  let cs := s.toList
  let shape := shapeFrom true none cs
  { shape with marked := shape.marked || ["---".toList, "...".toList].any (·.isPrefixOf cs) }

namespace Shape

def allowsPlain (s : Shape) : Bool :=
  !(s.marked || s.broken || s.edgeBlank || s.breakSpace || s.spaceBreak || s.unwritable)

def allowsSingleQuotes (s : Shape) : Bool := !(s.breakSpace || s.spaceBreak || s.unwritable)

def allowsBlock (s : Shape) : Bool := !(s.trailingSpace || s.spaceBreak || s.unwritable)

end Shape

def hexDigits (width n : Nat) : List Char :=
  let ds := (Nat.toDigits 16 n).map Char.toUpper
  List.replicate (width - ds.length) '0' ++ ds

def escape (c : Char) : List Char :=
  let n := c.toNat
  if c = '"' || c = '\\' then ['\\', c]
  else if isWritable c && !isBreak c then [c]
  else if n = 0 then ['\\', '0']
  else if n = 7 then ['\\', 'a']
  else if n = 8 then ['\\', 'b']
  else if n = 9 then ['\\', 't']
  else if n = 10 then ['\\', 'n']
  else if n = 11 then ['\\', 'v']
  else if n = 12 then ['\\', 'f']
  else if n = 13 then ['\\', 'r']
  else if n = 27 then ['\\', 'e']
  else if n = 0x85 then ['\\', 'N']
  else if n = 0xA0 then ['\\', '_']
  else if n = 0x2028 then ['\\', 'L']
  else if n = 0x2029 then ['\\', 'P']
  else if n ≤ 0xFF then ['\\', 'x'] ++ hexDigits 2 n
  else if n ≤ 0xFFFF then ['\\', 'u'] ++ hexDigits 4 n
  else ['\\', 'U'] ++ hexDigits 8 n

def singleQuote : Char := Char.ofNat 39

def doubleQuoted (s : String) : List Char := '"' :: s.toList.flatMap escape ++ ['"']

def singleQuoted (s : String) : List Char :=
  let doubled := s.toList.flatMap fun c => if c = singleQuote then [c, c] else [c]
  singleQuote :: doubled ++ [singleQuote]

-- The lines of a text without their breaks; a break at the end begins an empty line.
def lines : List Char → List (List Char)
  | [] => [[]]
  | c :: rest =>
    if c = '\n' then [] :: lines rest
    else
      match lines rest with
      | [] => [[c]]
      | line :: others => (c :: line) :: others

def blockHeader (cs : List Char) : List Char :=
  let hint := if cs.head?.any fun c => c = ' ' || isBreak c then ['2'] else []
  let chomping :=
    match cs.reverse with
    | '\n' :: '\n' :: _ => ['+']
    | ['\n'] => ['+']
    | '\n' :: _ => []
    | _ => ['-']
  '|' :: hint ++ chomping

-- A block of lines, each with two spaces before it unless it is empty; it begins on the next line.
def literalBlock (s : String) : List Char :=
  let cs := s.toList
  let body := (lines cs).map fun line => if line.isEmpty then [] else ' ' :: ' ' :: line
  let text := blockHeader cs ++ body.flatMap ('\n' :: ·)
  if cs.getLast? = some '\n' then text.dropLast else text

def writeString (s : String) : String :=
  let shape := shape s
  String.ofList <|
    if s.toList.contains '\n' then
      if shape.allowsBlock then literalBlock s else doubleQuoted s
    else if isPlainString s && shape.allowsPlain then s.toList
    else if shape.allowsSingleQuotes then singleQuoted s
    else doubleQuoted s

end JsonSchema.Yaml

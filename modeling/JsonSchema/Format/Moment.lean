import JsonSchema.Pattern.Basic
import JsonSchema.Unicode.Property

namespace JsonSchema.Format

def isLeap (year : Int) : Bool := year % 4 = 0 && (year % 100 != 0 || year % 400 = 0)

def daysOfMonth (year : Int) (month : Nat) : Nat :=
  if month = 2 then (if isLeap year then 29 else 28)
  else if [4, 6, 9, 11].contains month then 30
  else 31

def firstYear : Int := -262143

def lastYear : Int := 262142

def isDay (year : Int) (month day : Nat) : Bool :=
  firstYear ≤ year && year ≤ lastYear && 1 ≤ month && month ≤ 12 &&
    1 ≤ day && day ≤ daysOfMonth year month

def digitsValue (digits : List Char) : Nat := digits.foldl (fun n c => 10 * n + (c.toNat - 48)) 0

-- The number that the first digits make, at least one and not more than `width` of them.
def readNumber? (width : Nat) (cs : List Char) : Option (Nat × List Char) :=
  let digits := (cs.takeWhile Char.isDigit).take width
  if digits.isEmpty then none else some (digitsValue digits, cs.drop digits.length)

def readExactly? (width : Nat) (cs : List Char) : Option (Nat × List Char) :=
  let digits := cs.take width
  if digits.length = width && digits.all Char.isDigit then some (digitsValue digits, cs.drop width)
  else none

def readChar? (c : Char) : List Char → Option (List Char)
  | c' :: rest => if c' = c then some rest else none
  | [] => none

def skipSpace (cs : List Char) : List Char := cs.dropWhile Unicode.whiteSpace.contains

-- A year: up to four digits, or after a sign any number of them.
def readYear? (cs : List Char) : Option (Int × List Char) :=
  match cs with
  | '-' :: rest => (readNumber? rest.length rest).map fun (n, rest) => (-n, rest)
  | '+' :: rest => (readNumber? rest.length rest).map fun (n, rest) => (n, rest)
  | cs => (readNumber? 4 cs).map fun (n, rest) => (n, rest)

-- Whether a text writes a day as year, month and day between hyphens. Blanks may stand before each
-- number.
def isDate (s : String) : Bool :=
  let day? := do
    let (year, cs) ← readYear? (skipSpace s.toList)
    let (month, cs) ← readNumber? 2 (skipSpace (← readChar? '-' cs))
    let (day, cs) ← readNumber? 2 (skipSpace (← readChar? '-' cs))
    some (cs.isEmpty && isDay year month day)
  day?.getD false

def sign : Pattern := .anyOf [.single '+', .single '-']

def digit : Pattern := .char Unicode.decimalNumber

-- What may follow the seconds of a time: a fraction, and a distance from the universal time.
def timeTail : Pattern :=
  .sequence [
    .optional (.sequence [.single '.', .many1 digit]),
    .optional (.anyOf [
      .single 'z',
      .single 'Z',
      .sequence [
        sign,
        .exactly 2 digit,
        .optional (.sequence [.optional (.single ':'), .exactly 2 digit])]])]

def readClock? (cs : List Char) : Option ((Nat × Nat × Nat) × List Char) := do
  let (hour, cs) ← readExactly? 2 cs
  let (minute, cs) ← readExactly? 2 (← readChar? ':' cs)
  let (second, cs) ← readExactly? 2 (← readChar? ':' cs)
  some ((hour, minute, second), cs)

-- Whether a text writes a time of day. Seconds past the minute count as its last one.
def isTime (s : String) : Bool :=
  match readClock? s.toList with
  | some ((hour, minute, _), rest) =>
    hour < 24 && minute < 60 && timeTail.covers (String.ofList rest)
  | none => false

def skipFraction? : List Char → Option (List Char)
  | '.' :: rest => if (rest.takeWhile Char.isDigit).isEmpty then none
    else some (rest.dropWhile Char.isDigit)
  | cs => some cs

-- The sign that differs from the hyphen in nothing but its code.
def minusSign : Char := Char.ofNat 0x2212

def isOffset : List Char → Bool
  | ['Z'] | ['z'] => true
  | c :: cs =>
    let distance? := do
      let (hour, cs) ← readExactly? 2 cs
      let (minute, cs) ← readExactly? 2 (← readChar? ':' cs)
      some (hour < 24 && minute < 60 && cs.isEmpty)
    (c = '+' || c = '-' || c = minusSign) && distance?.getD false
  | [] => false

def skipSeparator? : List Char → Option (List Char)
  | c :: rest => if c = 'T' || c = 't' || c = ' ' then some rest else none
  | [] => none

-- Whether a text writes a day and a time with its distance from the universal time. The 60th second
-- is allowed in any minute.
def isDateTime (s : String) : Bool :=
  let moment? := do
    let (year, cs) ← readExactly? 4 s.toList
    let (month, cs) ← readExactly? 2 (← readChar? '-' cs)
    let (day, cs) ← readExactly? 2 (← readChar? '-' cs)
    let ((hour, minute, second), cs) ← readClock? (← skipSeparator? cs)
    let cs ← skipFraction? cs
    some (isDay year month day && hour < 24 && minute < 60 && second ≤ 60 && isOffset cs)
  moment?.getD false

end JsonSchema.Format

import JsonSchema.Json.Basic

-- Reading only looks at the form: the characters of a string and the digits of a number stay as
-- they are written. Readers take the characters that are left and give what they read with the
-- rest.

namespace JsonSchema.Json

-- What stands for a character in a string: the character, or a unit of UTF-16 after `\u`.
inductive Glyph where
  | char (c : Char)
  | unit (n : Nat)
  deriving DecidableEq, Inhabited

structure Literal where
  negative : Bool
  whole    : List Char
  decimals : Option (List Char)
  exponent : Option Int
  deriving DecidableEq, Inhabited

inductive Form where
  | null
  | bool (b : Bool)
  | number (literal : Literal)
  | string (glyphs : List Glyph)
  | array (items : List Form)
  | object (fields : List (List Glyph × Form))
  deriving Inhabited

def isBlank (c : Char) : Bool :=
  c = ' ' || c = '\t' || c = '\n' || c = '\r'

def skipBlanks (cs : List Char) : List Char :=
  cs.dropWhile isBlank

def digitValue (c : Char) : Nat := c.toNat - '0'.toNat

def digitsValue (ds : List Char) : Nat :=
  ds.foldl (fun n c => 10 * n + digitValue c) 0

def hexValue? (c : Char) : Option Nat :=
  if c.isDigit then some (digitValue c)
  else if 'a' ≤ c && c ≤ 'f' then some (c.toNat - 'a'.toNat + 10)
  else if 'A' ≤ c && c ≤ 'F' then some (c.toNat - 'A'.toNat + 10)
  else none

def readUnit? : List Char → Option (Nat × List Char)
  | a :: b :: c :: d :: rest => do
    let units ← [a, b, c, d].mapM hexValue?
    some (units.foldl (fun n u => 16 * n + u) 0, rest)
  | _ => none

-- The character after a backslash, but for `\u`.
def escaped? : Char → Option Char
  | '"' => some '"'
  | '\\' => some '\\'
  | '/' => some '/'
  | 'b' => some (Char.ofNat 8)
  | 'f' => some (Char.ofNat 12)
  | 'n' => some '\n'
  | 'r' => some '\r'
  | 't' => some '\t'
  | _ => none

-- The rest of a string after its opening quote; `acc` holds what was read, last first.
def readString? :
    (fuel : Nat) → (acc : List Glyph) → List Char → Option (List Glyph × List Char)
  | 0, _, _ => none
  | _ + 1, _, [] => none
  | _ + 1, acc, '"' :: rest => some (acc.reverse, rest)
  | fuel + 1, acc, '\\' :: 'u' :: rest => do
    let (n, rest) ← readUnit? rest
    readString? fuel (.unit n :: acc) rest
  | fuel + 1, acc, '\\' :: c :: rest => do
    let c ← escaped? c
    readString? fuel (.char c :: acc) rest
  | fuel + 1, acc, c :: rest =>
    if c.toNat < 32 || c = '\\' then none else readString? fuel (.char c :: acc) rest

def readExponent? : List Char → Option (Option Int × List Char)
  | c :: rest =>
    if c = 'e' || c = 'E' then
      let (negative, rest) :=
        match rest with
        | '-' :: rest => (true, rest)
        | '+' :: rest => (false, rest)
        | rest => (false, rest)
      match rest.span Char.isDigit with
      | ([], _) => none
      | (ds, rest) =>
        let n : Int := digitsValue ds
        some (some (if negative then -n else n), rest)
    else
      some (none, c :: rest)
  | [] => some (none, [])

def readFraction? : List Char → Option (Option (List Char) × List Char)
  | '.' :: rest =>
    match rest.span Char.isDigit with
    | ([], _) => none
    | (ds, rest) => some (some ds, rest)
  | rest => some (none, rest)

def readLiteral? (cs : List Char) : Option (Literal × List Char) := do
  let (negative, cs) :=
    match cs with
    | '-' :: rest => (true, rest)
    | cs => (false, cs)
  let (whole, cs) := cs.span Char.isDigit
  if whole.isEmpty || (whole.head? = some '0' && whole.length > 1) then none
  let (decimals, cs) ← readFraction? cs
  let (exponent, cs) ← readExponent? cs
  some (⟨negative, whole, decimals, exponent⟩, cs)

def readWord? (word : String) (form : Form) (cs : List Char) : Option (Form × List Char) :=
  if word.toList.isPrefixOf cs then some (form, cs.drop word.length) else none

mutual
def readForm? : (fuel : Nat) → List Char → Option (Form × List Char)
  | 0, _ => none
  | fuel + 1, cs =>
    match skipBlanks cs with
    | 'n' :: rest => readWord? "null" .null ('n' :: rest)
    | 't' :: rest => readWord? "true" (.bool true) ('t' :: rest)
    | 'f' :: rest => readWord? "false" (.bool false) ('f' :: rest)
    | '"' :: rest => do
      let (glyphs, rest) ← readString? (rest.length + 1) [] rest
      some (.string glyphs, rest)
    | '[' :: rest =>
      match skipBlanks rest with
      | ']' :: rest => some (.array [], rest)
      | rest => do
        let (items, rest) ← readItems? fuel rest
        some (.array items, rest)
    | '{' :: rest =>
      match skipBlanks rest with
      | '}' :: rest => some (.object [], rest)
      | rest => do
        let (fields, rest) ← readFields? fuel rest
        some (.object fields, rest)
    | cs => do
      let (literal, rest) ← readLiteral? cs
      some (.number literal, rest)

def readItems? : (fuel : Nat) → List Char → Option (List Form × List Char)
  | 0, _ => none
  | fuel + 1, cs => do
    let (item, rest) ← readForm? fuel cs
    match skipBlanks rest with
    | ',' :: rest =>
      let (items, rest) ← readItems? fuel rest
      some (item :: items, rest)
    | ']' :: rest => some ([item], rest)
    | _ => none

def readFields? : (fuel : Nat) → List Char → Option (List (List Glyph × Form) × List Char)
  | 0, _ => none
  | fuel + 1, cs =>
    match skipBlanks cs with
    | '"' :: rest => do
      let (key, rest) ← readString? (rest.length + 1) [] rest
      match skipBlanks rest with
      | ':' :: rest =>
        let (form, rest) ← readForm? fuel rest
        match skipBlanks rest with
        | ',' :: rest =>
          let (fields, rest) ← readFields? fuel rest
          some ((key, form) :: fields, rest)
        | '}' :: rest => some ([(key, form)], rest)
        | _ => none
      | _ => none
    | _ => none
end

def Form.ofText? (text : String) : Option Form := do
  let cs := text.toList
  let (form, rest) ← readForm? (2 * cs.length + 2) cs
  if (skipBlanks rest).isEmpty then some form else none

end JsonSchema.Json

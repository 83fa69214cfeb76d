import JsonSchema.Json.Form

namespace JsonSchema.Json

def isHighSurrogate (n : Nat) : Bool := 0xD800 ≤ n && n < 0xDC00

def isLowSurrogate (n : Nat) : Bool := 0xDC00 ≤ n && n < 0xE000

-- The text of a string; a character above U+FFFF may be written as two surrogate units. `acc` holds
-- the characters so far, last first.
def glyphsText? : (acc : List Char) → List Glyph → Option String
  | acc, [] => some (String.ofList acc.reverse)
  | acc, .char c :: rest => glyphsText? (c :: acc) rest
  | acc, .unit n :: rest =>
    if isHighSurrogate n then
      match rest with
      | .unit m :: rest =>
        if isLowSurrogate m then
          glyphsText? (Char.ofNat (0x10000 + (n - 0xD800) * 0x400 + (m - 0xDC00)) :: acc) rest
        else
          none
      | _ => none
    else if isLowSurrogate n then none
    else glyphsText? (Char.ofNat n :: acc) rest

-- Exponents beyond this size give zero or no number, whatever the digits are.
def exponentLimit : Int := 100000

def floatLiteral? (negative : Bool) (significand : Nat) (exponent : Int) : Option Number :=
  if significand = 0 then some (.float (.finite negative 0))
  else if exponent > exponentLimit then none
  else if exponent < -exponentLimit then some (.float (.finite negative 0))
  else
    let x := Binary64.ofDecimal negative significand exponent
    if x.isFinite then some (.float x) else none

def Literal.number? (l : Literal) : Option Number :=
  match l.decimals, l.exponent with
  | none, none =>
    match Number.ofIntegerLiteral l.negative (digitsValue l.whole) with
    | .float x => if x.isFinite then some (.float x) else none
    | n => some n
  | decimals, exponent =>
    let decimals := decimals.getD []
    floatLiteral? l.negative (digitsValue (l.whole ++ decimals))
      (exponent.getD 0 - decimals.length)

def depthLimit : Nat := 127

mutual
def Form.value? : (depth : Nat) → Form → Option Json
  | _, .null => some .null
  | _, .bool b => some (.bool b)
  | _, .number l => l.number?.map .number
  | _, .string glyphs => (glyphsText? [] glyphs).map .string
  | 0, .array _ => none
  | depth + 1, .array items => (itemValues? depth items).map .array
  | 0, .object _ => none
  | depth + 1, .object fields => (fieldValues? depth fields).map .object

def itemValues? (depth : Nat) : List Form → Option (List Json)
  | [] => some []
  | form :: rest => do
    let j ← form.value? depth
    let items ← itemValues? depth rest
    some (j :: items)

def fieldValues? (depth : Nat) : List (List Glyph × Form) → Option (List (String × Json))
  | [] => some []
  | (key, form) :: rest => do
    let k ← glyphsText? [] key
    let j ← form.value? depth
    let fields ← fieldValues? depth rest
    some ((k, j) :: fields)
end

mutual
def sorted : Json → Json
  | array items => array (sortedItems items)
  | object fields => object (Fields.ofList (sortedFields fields))
  | j => j

def sortedItems : List Json → List Json
  | [] => []
  | j :: rest => sorted j :: sortedItems rest

def sortedFields : List (String × Json) → List (String × Json)
  | [] => []
  | (k, j) :: rest => (k, sorted j) :: sortedFields rest
end

-- A form keeps the fields of an object as they are written. Here they are sorted, and of two fields
-- of one key the later counts.
def parse? (text : String) : Option Json := do
  let form ← Form.ofText? text
  let j ← form.value? depthLimit
  some (sorted j)

end JsonSchema.Json

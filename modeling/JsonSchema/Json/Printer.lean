import JsonSchema.Binary64.Shortest
import JsonSchema.Json.Basic

namespace JsonSchema

-- The exponents of the first digit between which a binary64 number is written positionally.
structure FloatLayout where
  least    : Int
  greatest : Int

-- JSON writes exponents from -5 to 15 positionally, the others after an `e` with their sign.
def FloatLayout.json : FloatLayout := ⟨-5, 15⟩

namespace Decimal

def zeros (n : Nat) : List Char := List.replicate n '0'

-- Digits with a point, with at least one digit on each side of it.
def positional (d : Decimal) : List Char :=
  let ds := d.digits
  let e := d.leadingExponent
  if e < 0 then '0' :: '.' :: zeros (-e - 1).toNat ++ ds
  else if d.exponent ≥ 0 then ds ++ zeros d.exponent.toNat ++ ['.', '0']
  else ds.take (e.toNat + 1) ++ '.' :: ds.drop (e.toNat + 1)

-- One digit, a point if more digits follow, and the exponent with its sign.
def scientific (d : Decimal) : List Char :=
  let e := d.leadingExponent
  let mantissa :=
    match d.digits with
    | [c] => [c]
    | c :: rest => c :: '.' :: rest
    | [] => []
  mantissa ++ 'e' :: (if e < 0 then '-' else '+') :: Nat.toDigits 10 e.natAbs

def write (layout : FloatLayout) (d : Decimal) : List Char :=
  let e := d.leadingExponent
  if layout.least ≤ e ∧ e ≤ layout.greatest then d.positional else d.scientific

end Decimal

namespace Number

-- The text of a binary64 number; what is not a finite number is written as null.
def floatText : Binary64 → String
  | .finite negative q =>
    let magnitude :=
      if q = 0 then ['0', '.', '0'] else (Binary64.shortest q).write FloatLayout.json
    String.ofList (if negative then '-' :: magnitude else magnitude)
  | _ => "null"

def text : Number → String
  | integer n => toString n
  | float x => floatText x

end Number

namespace Json

def hexPair (n : Nat) : List Char :=
  [Nat.digitChar (n / 16 % 16), Nat.digitChar (n % 16)]

-- All characters stand for themselves but the two that delimit and escape, and the control
-- characters.
def escapeChar (c : Char) : List Char :=
  if c = '"' then ['\\', '"']
  else if c = '\\' then ['\\', '\\']
  else if c = '\n' then ['\\', 'n']
  else if c = '\r' then ['\\', 'r']
  else if c = '\t' then ['\\', 't']
  else if c.toNat = 8 then ['\\', 'b']
  else if c.toNat = 12 then ['\\', 'f']
  else if c.toNat < 32 then ['\\', 'u', '0', '0'] ++ hexPair c.toNat
  else [c]

def quote (s : String) : String :=
  String.ofList ('"' :: s.toList.flatMap escapeChar ++ ['"'])

mutual
def render : Json → String
  | null => "null"
  | bool true => "true"
  | bool false => "false"
  | number n => n.text
  | string s => quote s
  | array items => "[" ++ ",".intercalate (renderItems items) ++ "]"
  | object fields => "\x7b" ++ ",".intercalate (renderFields fields) ++ "\x7d"

def renderItems : List Json → List String
  | [] => []
  | j :: rest => render j :: renderItems rest

def renderFields : List (String × Json) → List String
  | [] => []
  | (k, j) :: rest => (quote k ++ ":" ++ render j) :: renderFields rest
end

def newline (level : Nat) : String :=
  String.ofList ('\n' :: List.replicate (2 * level) ' ')

def block (opening closing : String) (level : Nat) : List String → String
  | [] => opening ++ closing
  | parts =>
    opening ++ newline (level + 1) ++ (("," ++ newline (level + 1)).intercalate parts)
      ++ newline level ++ closing

mutual
def renderIndented (level : Nat) : Json → String
  | array items => block "[" "]" level (renderIndentedItems (level + 1) items)
  | object fields => block "\x7b" "\x7d" level (renderIndentedFields (level + 1) fields)
  | null => "null"
  | bool true => "true"
  | bool false => "false"
  | number n => n.text
  | string s => quote s

def renderIndentedItems (level : Nat) : List Json → List String
  | [] => []
  | j :: rest => renderIndented level j :: renderIndentedItems level rest

def renderIndentedFields (level : Nat) : List (String × Json) → List String
  | [] => []
  | (k, j) :: rest => (quote k ++ ": " ++ renderIndented level j) :: renderIndentedFields level rest
end

end Json

end JsonSchema

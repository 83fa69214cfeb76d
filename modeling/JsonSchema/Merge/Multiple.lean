import JsonSchema.Json.Printer

namespace JsonSchema.Number

-- Decimals beyond this number are not looked at.
def decimalLimit : Nat := 12

def decimals (n : Number) : Nat :=
  let fraction := (n.text.toList.dropWhile (· ≠ '.')).drop 1
  min (fraction.takeWhile Char.isDigit).length decimalLimit

def gcd (a b : Nat) : Nat :=
  if b = 0 then a else gcd b (a % b)
termination_by b
decreasing_by exact Nat.mod_lt a (Nat.pos_of_ne_zero ‹_›)

def mulWord? (a b : Nat) : Option Nat :=
  if a * b < wordSize then some (a * b) else none

-- The least common multiple of two positive numbers, if a word holds it. The division comes first,
-- so that the product is the multiple itself.
def lcmWord? (a b : Nat) : Option Nat :=
  if a = 0 ∨ b = 0 then none else mulWord? (a / gcd a b) b

-- The nearest integer to a number times a power of ten, held to the range of a word.
def scaled (scale : Nat) (x : Binary64) : Nat :=
  (x.mul (.ofInt scale)).roundWhole.toNatUpTo (wordSize - 1)

def lcmScaled? (scale : Nat) (x y : Binary64) : Option Number :=
  match lcmWord? (scaled scale x) (scaled scale y) with
  | some multiple =>
    let q := (Binary64.ofInt multiple).div (.ofInt scale)
    if q.isFinite then some (.float q) else none
  | none => none

-- Exact for two integers. Other numbers are scaled to integers by the decimals of their texts.
def lcm? (m n : Number) : Option Number :=
  match m.toNat?, n.toNat? with
  | some a, some b => (lcmWord? a b).map fun multiple => .integer multiple
  | _, _ =>
    let x := m.toBinary64
    let y := n.toBinary64
    let zero := Binary64.ofInt 0
    if zero.numLt x && zero.numLt y then
      lcmScaled? (Nat.pow 10 (max m.decimals n.decimals)) x y
    else
      none

end JsonSchema.Number

import JsonSchema.Binary64.Basic

namespace JsonSchema

structure Decimal where
  significand : Nat
  exponent    : Int
  deriving DecidableEq, Inhabited

namespace Decimal

def value (d : Decimal) : Rat :=
  d.significand * (10 : Rat) ^ d.exponent

def digits (d : Decimal) : List Char :=
  Nat.toDigits 10 d.significand

def leadingExponent (d : Decimal) : Int :=
  d.exponent + d.digits.length - 1

-- The same value without trailing zeros in the significand; `fuel` bounds their number.
def trim : Nat → Decimal → Decimal
  | 0, d => d
  | fuel + 1, d =>
    if d.significand ≠ 0 ∧ d.significand % 10 = 0 then
      trim fuel ⟨d.significand / 10, d.exponent + 1⟩
    else
      d

end Decimal

namespace Binary64

-- The largest `k` with `10 ^ k ≤ q`, for a positive `q` in the range of the format.
def floorLog10 (q : Rat) : Int :=
  let k := Int.fdiv (floorLog2 q * 30103) 100000
  if (10 : Rat) ^ (k + 1) ≤ q then k + 1
  else if (10 : Rat) ^ k ≤ q then k
  else k - 1

def readsBack (q : Rat) (d : Decimal) : Bool :=
  roundMagnitude d.value == q

-- The decimals beside `q` whose last digit has the weight `10 ^ exponent`.
def neighbours (q : Rat) (exponent : Int) : Decimal × Decimal :=
  let below := (q / (10 : Rat) ^ exponent).floor.toNat
  (⟨below, exponent⟩, ⟨below + 1, exponent⟩)

-- The neighbour of `q` on a grid that reads back; of two the nearer, of equally near ones the even.
def candidate? (q : Rat) (exponent : Int) : Option Decimal :=
  let (low, high) := neighbours q exponent
  match readsBack q low, readsBack q high with
  | false, false => none
  | true, false => some low
  | false, true => some high
  | true, true =>
    let down := q - low.value
    let up := high.value - q
    if down < up then some low
    else if up < down then some high
    else if low.significand % 2 = 0 then some low
    else some high

-- The decimal with the fewest digits, at most seventeen, that reads back to the positive magnitude
-- `q`. Of each length there are two candidates, the neighbours of `q`; the first length with one
-- that reads back wins.
def shortest (q : Rat) : Decimal :=
  let leading := floorLog10 q
  let lengths := (List.range 17).map fun (n : Nat) => leading - n
  match lengths.findSome? (candidate? q) with
  | some d => d.trim 20
  | none => (neighbours q (leading - 16)).1.trim 20

end Binary64

end JsonSchema

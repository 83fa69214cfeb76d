namespace JsonSchema

-- A finite number, written as a sign and its exact magnitude (so that there are two zeros), an
-- infinity, or the absence of a number. Every operation is the exact operation on rationals
-- followed by one rounding.
inductive Binary64 where
  | finite (negative : Bool) (magnitude : Rat)
  | infinite (negative : Bool)
  | nan
  deriving DecidableEq, Inhabited

namespace Binary64

-- The largest `k` with `2 ^ k ≤ q`, for a positive `q`.
def floorLog2 (q : Rat) : Int :=
  let k : Int := (q.num.natAbs.log2 : Int) - (q.den.log2 : Int)
  if (2 : Rat) ^ k ≤ q then k else k - 1

-- The distance between neighbouring numbers of the format at the magnitude `q` is `2 ^ spacing q`.
def spacing (q : Rat) : Int :=
  if q = 0 then -1074 else max (floorLog2 q - 52) (-1074)

def roundHalfEven (q : Rat) : Int :=
  let below := q.floor
  let rest := q - below
  if rest < 1 / 2 then below
  else if 1 / 2 < rest then below + 1
  else if below % 2 = 0 then below
  else below + 1

def roundHalfAway (q : Rat) : Int :=
  if q < 0 then -((-q) + 1 / 2).floor else (q + 1 / 2).floor

-- The magnitude of the format that is nearest to `q`, when the exponent has no upper limit.
def roundMagnitude (q : Rat) : Rat :=
  let unit := (2 : Rat) ^ spacing q
  roundHalfEven (q / unit) * unit

-- The number nearest to the magnitude `q ≥ 0` with the given sign, an infinity beyond the range.
def round (negative : Bool) (q : Rat) : Binary64 :=
  let r := roundMagnitude q
  if r < (2 : Rat) ^ (1024 : Nat) then .finite negative r else .infinite negative

def ofRat (q : Rat) : Binary64 :=
  if q < 0 then round true (-q) else round false q

def ofInt (n : Int) : Binary64 := ofRat n

def ofDecimal (negative : Bool) (significand : Nat) (exponent : Int) : Binary64 :=
  round negative (significand * (10 : Rat) ^ exponent)

def value? : Binary64 → Option Rat
  | finite true q => some (-q)
  | finite false q => some q
  | _ => none

-- Equality as numbers: the two zeros are equal and `nan` equals nothing.
def numEq : Binary64 → Binary64 → Bool
  | infinite m, infinite n => m == n
  | x, y =>
    match x.value?, y.value? with
    | some p, some q => p == q
    | _, _ => false

def numLt : Binary64 → Binary64 → Bool
  | nan, _ => false
  | _, nan => false
  | infinite m, infinite n => m && !n
  | infinite m, finite _ _ => m
  | finite _ _, infinite n => !n
  | x, y =>
    match x.value?, y.value? with
    | some p, some q => p < q
    | _, _ => false

def numLe (x y : Binary64) : Bool := x.numLt y || x.numEq y

def isNegative : Binary64 → Bool
  | finite negative _ => negative
  | infinite negative => negative
  | nan => false

def isFinite : Binary64 → Bool
  | finite _ _ => true
  | _ => false

def abs : Binary64 → Binary64
  | finite _ q => finite false q
  | infinite _ => infinite false
  | nan => nan

-- The larger of two numbers; `nan` gives way to a number.
def numMax (x y : Binary64) : Binary64 :=
  match x, y with
  | nan, y => y
  | x, nan => x
  | x, y => if x.numLt y then y else x

def mul : Binary64 → Binary64 → Binary64
  | nan, _ => nan
  | _, nan => nan
  | finite m p, finite n q => round (m != n) (p * q)
  | finite m p, infinite n => if p = 0 then nan else infinite (m != n)
  | infinite m, finite n q => if q = 0 then nan else infinite (m != n)
  | infinite m, infinite n => infinite (m != n)

def div : Binary64 → Binary64 → Binary64
  | nan, _ => nan
  | _, nan => nan
  | finite m p, finite n q =>
    if q = 0 then
      if p = 0 then nan else infinite (m != n)
    else
      round (m != n) (p / q)
  | finite m _, infinite n => finite (m != n) 0
  | infinite m, finite n _ => infinite (m != n)
  | infinite _, infinite _ => nan

def sub : Binary64 → Binary64 → Binary64
  | nan, _ => nan
  | _, nan => nan
  | infinite m, infinite n => if m == n then nan else infinite m
  | infinite m, finite _ _ => infinite m
  | finite _ _, infinite n => infinite !n
  | x, y =>
    match x.value?, y.value? with
    | some p, some q => if p = q then finite (x.isNegative && !y.isNegative) 0 else ofRat (p - q)
    | _, _ => nan

def roundWhole : Binary64 → Binary64
  | finite negative q => finite negative (roundHalfAway q)
  | x => x

def isWhole : Binary64 → Bool
  | finite _ q => q.den == 1
  | _ => false

-- The integral part, held to the range from zero to `limit`; `nan` gives zero.
def toNatUpTo (limit : Nat) : Binary64 → Nat
  | finite true _ => 0
  | finite false q => min q.floor.toNat limit
  | infinite true => 0
  | infinite false => limit
  | nan => 0

end Binary64

end JsonSchema

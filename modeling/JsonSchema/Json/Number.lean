import JsonSchema.Binary64.Basic

-- Numbers of different kinds are different documents, even if their values agree: `1` is not `1.0`.

namespace JsonSchema

inductive Number where
  | integer (value : Int)
  | float (value : Binary64)
  deriving DecidableEq, Inhabited

namespace Number

def wordSize : Nat := UInt64.size

-- The integers that are kept as such: one word, signed if negative and unsigned otherwise.
def isWord (n : Int) : Bool :=
  -(wordSize : Int) ≤ 2 * n && n < (wordSize : Int)

def WellFormed : Number → Prop
  | integer n => isWord n
  | float x => x.isFinite

-- Equality of documents; the two zeros of binary64 are equal.
def same : Number → Number → Bool
  | integer m, integer n => m == n
  | float x, float y => x.numEq y
  | _, _ => false

-- The value as a binary64 number; a large integer is rounded to the nearest one.
def toBinary64 : Number → Binary64
  | integer n => Binary64.ofInt n
  | float x => x

def toNat? : Number → Option Nat
  | integer n => if 0 ≤ n then some n.toNat else none
  | float _ => none

def isWhole : Number → Bool
  | integer _ => true
  | float x => x.isWhole

-- The number written by an integer literal: a binary64 number if no word holds it.
def ofIntegerLiteral (negative : Bool) (digits : Nat) : Number :=
  let n : Int := if negative then -(digits : Int) else digits
  if isWord n && !(negative && digits == 0) then integer n
  else float (Binary64.round negative digits)

end Number

end JsonSchema

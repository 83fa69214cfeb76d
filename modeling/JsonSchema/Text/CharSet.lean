namespace JsonSchema

-- Ranges of code points, which rise and do not touch. The operations work on such lists; only
-- `ofRanges` puts any list into this form.
structure CharSet where
  ranges : List (Nat × Nat)
  deriving DecidableEq, Inhabited

namespace CharSet

def empty : CharSet := ⟨[]⟩

def lastCode : Nat := 0x10FFFF

-- All characters: the code points that are no surrogates.
def all : CharSet := ⟨[(0, 0xD7FF), (0xE000, lastCode)]⟩

def containsCode (s : CharSet) (n : Nat) : Bool :=
  s.ranges.any fun (low, high) => low ≤ n && n ≤ high

def contains (s : CharSet) (c : Char) : Bool := s.containsCode c.toNat

def single (c : Char) : CharSet := ⟨[(c.toNat, c.toNat)]⟩

def range (low high : Nat) : CharSet := ⟨[(low, high)]⟩

def isEmpty (s : CharSet) : Bool := s.ranges.isEmpty

def isAscii (s : CharSet) : Bool := s.ranges.all fun (_, high) => high < 0x80

-- Joins a range with those after it that meet it, and these with each other.
def joinFrom (low high : Nat) : List (Nat × Nat) → List (Nat × Nat)
  | [] => [(low, high)]
  | (low', high') :: rest =>
    if low' ≤ high + 1 then joinFrom low (max high high') rest
    else (low, high) :: joinFrom low' high' rest

def joinRanges : List (Nat × Nat) → List (Nat × Nat)
  | [] => []
  | (low, high) :: rest => joinFrom low high rest

def ofRanges (ranges : List (Nat × Nat)) : CharSet :=
  ⟨joinRanges (ranges.mergeSort fun r s => r.1 ≤ s.1)⟩

def union (s t : CharSet) : CharSet := ofRanges (s.ranges ++ t.ranges)

def unions (sets : List CharSet) : CharSet := ofRanges (sets.flatMap (·.ranges))

-- The gaps of rising ranges between two code points.
def gaps (low high : Nat) : List (Nat × Nat) → List (Nat × Nat)
  | [] => if low ≤ high then [(low, high)] else []
  | (low', high') :: rest =>
    if low < low' then (low, low' - 1) :: gaps (high' + 1) high rest
    else gaps (high' + 1) high rest

def clip (low high : Nat) (ranges : List (Nat × Nat)) : List (Nat × Nat) :=
  ranges.filterMap fun (low', high') =>
    if max low low' ≤ min high high' then some (max low low', min high high') else none

def inter (s t : CharSet) : CharSet :=
  ofRanges (s.ranges.flatMap fun (low, high) => clip low high t.ranges)

def compl (s : CharSet) : CharSet := inter ⟨gaps 0 lastCode s.ranges⟩ all

def diff (s t : CharSet) : CharSet := inter s t.compl

def symmDiff (s t : CharSet) : CharSet := union (diff s t) (diff t s)

end CharSet

end JsonSchema

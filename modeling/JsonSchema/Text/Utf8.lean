import JsonSchema.Text.CharSet

-- Sets of characters are given as rows of byte ranges: every choice of a byte from each range of a
-- row writes a character of the set.

namespace JsonSchema.Utf8

abbrev ByteRange := Nat × Nat

-- The code points that are written with so many bytes after the first one, and the number that is
-- added to the highest bits to make the first byte.
structure Form where
  first : Nat
  last  : Nat
  tail  : Nat
  lead  : Nat

-- All forms; the surrogates have none.
def forms : List Form :=
  [⟨0, 0x7F, 0, 0⟩, ⟨0x80, 0x7FF, 1, 0xC0⟩, ⟨0x800, 0xD7FF, 2, 0xE0⟩, ⟨0xE000, 0xFFFF, 2, 0xE0⟩,
    ⟨0x10000, 0x10FFFF, 3, 0xF0⟩]

def tailRange (low high : Nat) : ByteRange := (0x80 + low, 0x80 + high)

-- The rows for the numbers between two that have `tail` digits to the base 64 after the first
-- digit. Parts of the first and the last block have rows of their own; the blocks between them,
-- which are complete, share one.
def rows (digit : Nat → Nat → ByteRange) : (tail : Nat) → (low high : Nat) → List (List ByteRange)
  | 0, low, high => [[digit low high]]
  | tail + 1, low, high =>
    let block := Nat.pow 64 (tail + 1)
    let within (head low high : Nat) :=
      (rows tailRange tail low high).map (digit head head :: ·)
    if low / block = high / block then within (low / block) (low % block) (high % block)
    else
      let startsBlock := low % block = 0
      let endsBlock := high % block = block - 1
      let first := if startsBlock then low / block else low / block + 1
      let last := if endsBlock then high / block else high / block - 1
      (if startsBlock then [] else within (low / block) (low % block) (block - 1)) ++
        (if first ≤ last then [digit first last :: List.replicate (tail + 1) (tailRange 0 63)]
          else []) ++
        if endsBlock then [] else within (high / block) 0 (high % block)

def Form.rowsOf (f : Form) (low high : Nat) : List (List ByteRange) :=
  if max low f.first ≤ min high f.last then
    rows (fun low high => (f.lead + low, f.lead + high)) f.tail (max low f.first) (min high f.last)
  else
    []

def rowsOf (s : CharSet) : List (List ByteRange) :=
  s.ranges.flatMap fun (low, high) => forms.flatMap fun f => f.rowsOf low high

end JsonSchema.Utf8

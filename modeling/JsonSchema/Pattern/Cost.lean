import JsonSchema.Text.Utf8

-- The bytes that a machine takes which reads the bytes of a text for a pattern. The size of
-- patterns is limited by this measure, since a few characters can ask for millions of copies.

namespace JsonSchema.Pattern.Cost

def state : Nat := 32

def edge : Nat := 4

def rangeEdge : Nat := 8

def char (c : Char) : Nat := state * c.utf8Size

def assertion : Nat := state

def sharedLength : List Utf8.ByteRange → List Utf8.ByteRange → Nat
  | r :: rs, s :: ss => if r = s then sharedLength rs ss + 1 else 0
  | _, _ => 0

-- The states for rows in their order, each of which shares the states of its beginning with the row
-- before.
def rowStates : (before : List Utf8.ByteRange) → List (List Utf8.ByteRange) → Nat
  | _, [] => 0
  | before, row :: rows => row.length - sharedLength before row + rowStates row rows

-- One state reads all characters of ASCII. Others take a state for every byte.
def set (s : CharSet) : Nat :=
  if s.isAscii then 2 * state + rangeEdge * s.ranges.length
  else
    let rows := Utf8.rowsOf s
    2 * state + state * rowStates [] rows + edge * rows.length

-- The bytes for so many copies of a part and up to so many or any number of more.
def copies (part least : Nat) : (more : Option Nat) → Nat
  | some 0 => least * part
  | some more => least * part + state + more * (part + state + 2 * edge)
  | none => max least 1 * part + state + 2 * edge

def choice (parts : Nat) : Nat := 2 * state + edge * parts

def capture : Nat := 2 * state

end JsonSchema.Pattern.Cost

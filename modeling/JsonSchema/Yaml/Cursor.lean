namespace JsonSchema.Yaml

structure Cursor where
  rest   : List Char
  index  : Nat := 0
  line   : Nat := 0
  column : Nat := 0
  deriving Inhabited

def isBlank (c : Char) : Bool := c = ' ' || c = '\t'

def isBreak (c : Char) : Bool :=
  c = '\n' || c = '\r' || c.toNat = 0x85 || c.toNat = 0x2028 || c.toNat = 0x2029

def isWordChar (c : Char) : Bool := c.isAlphanum || c = '_' || c = '-'

namespace Cursor

def ofChars (cs : List Char) : Cursor := { rest := cs }

def peek? (c : Cursor) (k : Nat) : Option Char := c.rest[k]?

def atEnd (c : Cursor) : Bool := c.rest.isEmpty

def looksAt (c : Cursor) (k : Nat) (p : Char → Bool) : Bool := (c.peek? k).any p

def isAt (c : Cursor) (k : Nat) (char : Char) : Bool := c.peek? k = some char

def endsWordAt (c : Cursor) (k : Nat) : Bool :=
  match c.peek? k with
  | some char => isBlank char || isBreak char
  | none => true

def atLineEnd (c : Cursor) : Bool :=
  match c.peek? 0 with
  | some char => isBreak char
  | none => true

def next (c : Cursor) : Cursor :=
  { c with rest := c.rest.drop 1, index := c.index + 1, column := c.column + 1 }

def skip : Nat → Cursor → Cursor
  | 0, c => c
  | k + 1, c => skip k c.next

-- The break that comes next as one character, also where it is written as two, and the cursor after
-- it.
def readBreak (c : Cursor) : List Char × Cursor :=
  match c.rest with
  | '\r' :: '\n' :: rest => (['\n'], ⟨rest, c.index + 2, c.line + 1, 0⟩)
  | char :: rest =>
    if isBreak char then
      let kept := if char.toNat = 0x2028 || char.toNat = 0x2029 then char else '\n'
      ([kept], ⟨rest, c.index + 1, c.line + 1, 0⟩)
    else ([], c)
  | [] => ([], c)

def takeWhile (p : Char → Bool) (c : Cursor) : List Char × Cursor :=
  let taken := c.rest.takeWhile fun char => p char && !isBreak char
  (taken, c.skip taken.length)

def skipWhile (p : Char → Bool) (c : Cursor) : Cursor := (c.takeWhile p).2

-- A mark between documents: three times the same character at the beginning of a line.
def atMark (mark : Char) (c : Cursor) : Bool :=
  c.column = 0 && c.isAt 0 mark && c.isAt 1 mark && c.isAt 2 mark && c.endsWordAt 3

def atDocumentMark (c : Cursor) : Bool := c.atMark '-' || c.atMark '.'

end Cursor

end JsonSchema.Yaml

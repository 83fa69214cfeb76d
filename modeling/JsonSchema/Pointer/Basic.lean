-- A step of a pointer is the key of a field or the index of an item; the step `-` stands for every
-- index.

namespace JsonSchema

structure Pointer where
  tokens : List String
  deriving DecidableEq, Inhabited

namespace Pointer

def root : Pointer := ⟨[]⟩

def anyIndex : String := "-"

def depth (p : Pointer) : Nat := p.tokens.length

def isRoot (p : Pointer) : Bool := p.tokens.isEmpty

def isGeneric (p : Pointer) : Bool := p.tokens.contains anyIndex

def last? (p : Pointer) : Option String := p.tokens.getLast?

def child (p : Pointer) (token : String) : Pointer := ⟨p.tokens ++ [token]⟩

def append (p : Pointer) (tokens : List String) : Pointer := ⟨p.tokens ++ tokens⟩

def parent? (p : Pointer) : Option Pointer :=
  if p.isRoot then none else some ⟨p.tokens.dropLast⟩

def after? (p source : Pointer) : Option (List String) :=
  if source.tokens.isPrefixOf p.tokens then some (p.tokens.drop source.depth) else none

-- `p` is the node at `outer` or a node inside it.
def isWithin (p outer : Pointer) : Bool := outer.tokens.isPrefixOf p.tokens

def isInside (p outer : Pointer) : Bool := p.isWithin outer && outer.depth < p.depth

-- The place of `p` when the node at `source` is moved to `target`.
def rebase? (p source target : Pointer) : Option Pointer :=
  (p.after? source).map target.append

def compareTokens : List String → List String → Ordering
  | [], [] => .eq
  | [], _ :: _ => .lt
  | _ :: _, [] => .gt
  | a :: as, b :: bs => (compare a b).then (compareTokens as bs)

def compare (p q : Pointer) : Ordering := compareTokens p.tokens q.tokens

instance : Ord Pointer := ⟨compare⟩

-- An index of an array as a step: decimal digits without a leading zero, of the size of a word.
def index? (token : String) : Option Nat :=
  let cs := token.toList
  if cs ≠ [] ∧ cs.all Char.isDigit ∧ (cs = ['0'] ∨ cs.head? ≠ some '0') then
    let n := cs.foldl (fun n c => 10 * n + (c.toNat - '0'.toNat)) 0
    if n < UInt64.size then some n else none
  else
    none

def ofIndex (n : Nat) : String := toString n

end Pointer

end JsonSchema

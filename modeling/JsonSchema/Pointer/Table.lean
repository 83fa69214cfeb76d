import JsonSchema.Pointer.Basic
import JsonSchema.Json.Basic

namespace JsonSchema

structure PointerTable (α : Type) where
  entries : List (Pointer × α)
  deriving Inhabited

namespace PointerTable

variable {α : Type}

def empty : PointerTable α := ⟨[]⟩

def size (t : PointerTable α) : Nat := t.entries.length

def isEmpty (t : PointerTable α) : Bool := t.entries.isEmpty

def keys (t : PointerTable α) : List Pointer := t.entries.map (·.1)

def lookup : List (Pointer × α) → Pointer → Option α
  | [], _ => none
  | (p, a) :: rest, key => if p = key then some a else lookup rest key

def get? (t : PointerTable α) (p : Pointer) : Option α := lookup t.entries p

def contains (t : PointerTable α) (p : Pointer) : Bool := (t.get? p).isSome

def insertEntry (key : Pointer) (value : α) : List (Pointer × α) → List (Pointer × α)
  | [] => [(key, value)]
  | (p, a) :: rest =>
    match key.compare p with
    | .lt => (key, value) :: (p, a) :: rest
    | .eq => (p, a) :: rest
    | .gt => (p, a) :: insertEntry key value rest

-- Adds an entry, unless the pointer has one.
def insert (t : PointerTable α) (key : Pointer) (value : α) : PointerTable α :=
  ⟨insertEntry key value t.entries⟩

def ofList (entries : List (Pointer × α)) : PointerTable α :=
  entries.foldl (fun t (p, a) => t.insert p a) empty

end PointerTable

-- From the places of recursive references to the places that they refer back to.
abbrev ReferenceMap := PointerTable Pointer

-- From every array to its arity: the number of items with a place of their own, beyond which all
-- indices are alike.
abbrev ArrayMap := PointerTable Nat

abbrev Library := PointerTable Json

namespace Pointer

-- The step that a generic pointer takes, at a generic position, where another takes `token`.
def genericStep (arrays : ArrayMap) (position : Pointer) (token : String) : String :=
  match index? token, arrays.get? position with
  | some index, some arity => if arity ≤ index then anyIndex else token
  | _, _ => token

def toGenericFrom (arrays : ArrayMap) (position : Pointer) : List String → Pointer
  | [] => position
  | token :: rest => toGenericFrom arrays (position.child (genericStep arrays position token)) rest

-- A generic pointer has the step `-` wherever the index makes no difference, which is at and beyond
-- the arity of an array.
def toGeneric (p : Pointer) (arrays : ArrayMap) : Pointer := toGenericFrom arrays root p.tokens

-- Fills the steps `-` from the left; those for which no index is left stay.
def fill : List String → List Nat → List String
  | [], _ => []
  | tokens, [] => tokens
  | token :: rest, index :: indices =>
    if token = anyIndex then ofIndex index :: fill rest indices
    else token :: fill rest (index :: indices)

def toIndexed (p : Pointer) (indices : List Nat) : Pointer := ⟨fill p.tokens indices⟩

end Pointer

end JsonSchema

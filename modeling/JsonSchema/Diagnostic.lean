import JsonSchema.Pointer.Text

namespace JsonSchema

inductive Diagnostic where
  -- The target of a reference does not exist, or the reference is no pointer.
  | unresolvedReference (place : Pointer) (reference : String)
  | droppedSiblings (place : Pointer) (keywords : List String)
  | uncombinedAllOf (place : Pointer)
  deriving DecidableEq, Inhabited

namespace Diagnostic

def place : Diagnostic → Pointer
  | unresolvedReference p _ => p
  | droppedSiblings p _ => p
  | uncombinedAllOf p => p

def rank : Diagnostic → Nat
  | unresolvedReference _ _ => 0
  | droppedSiblings _ _ => 1
  | uncombinedAllOf _ => 2

def details : Diagnostic → List String
  | unresolvedReference _ reference => [reference]
  | droppedSiblings _ keywords => keywords
  | uncombinedAllOf _ => []

def compare (d e : Diagnostic) : Ordering :=
  (Ord.compare d.rank e.rank).then <|
    (d.place.compare e.place).then (Pointer.compareTokens d.details e.details)

def insertSorted (d : Diagnostic) : List Diagnostic → List Diagnostic
  | [] => [d]
  | e :: rest =>
    match d.compare e with
    | .lt => d :: e :: rest
    | .eq => e :: rest
    | .gt => e :: insertSorted d rest

-- In the order of the kinds, then of the places, then of what diagnostics carry.
def sort (ds : List Diagnostic) : List Diagnostic :=
  ds.foldl (fun sorted d => insertSorted d sorted) []

def kind : Diagnostic → String
  | unresolvedReference _ _ => "unresolved_reference"
  | droppedSiblings _ _ => "dropped_ref_siblings"
  | uncombinedAllOf _ => "uncombined_all_of"

end Diagnostic

end JsonSchema

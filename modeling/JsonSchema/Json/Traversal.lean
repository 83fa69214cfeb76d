import JsonSchema.Pointer.Table

namespace JsonSchema.Json

mutual
-- Every node with its pointer, each before the nodes inside it; `place` is the pointer of the tree.
def nodes (place : Pointer) : Json → List (Pointer × Json)
  | array items => (place, array items) :: nodesOfItems place 0 items
  | object fields => (place, object fields) :: nodesOfFields place fields
  | scalar => [(place, scalar)]

def nodesOfItems (place : Pointer) (index : Nat) : List Json → List (Pointer × Json)
  | [] => []
  | j :: rest =>
    nodes (place.child (Pointer.ofIndex index)) j ++ nodesOfItems place (index + 1) rest

def nodesOfFields (place : Pointer) : List (String × Json) → List (Pointer × Json)
  | [] => []
  | (k, j) :: rest => nodes (place.child k) j ++ nodesOfFields place rest
end

section Map

variable {m : Type → Type} [Monad m] (f : Json → Pointer → m Json)

mutual
-- Rebuilds a tree from the leaves up: a node is handed on with its parts already rebuilt.
def mapPost (place : Pointer) : Json → m Json
  | array items => do
    let items ← mapPostItems place 0 items
    f (array items) place
  | object fields => do
    let fields ← mapPostFields place fields
    f (object fields) place
  | null => f null place
  | bool b => f (bool b) place
  | number n => f (number n) place
  | string s => f (string s) place

def mapPostItems (place : Pointer) (index : Nat) : List Json → m (List Json)
  | [] => pure []
  | j :: rest => do
    let j ← mapPost (place.child (Pointer.ofIndex index)) j
    let rest ← mapPostItems place (index + 1) rest
    pure (j :: rest)

def mapPostFields (place : Pointer) : List (String × Json) → m (List (String × Json))
  | [] => pure []
  | (k, j) :: rest => do
    let j ← mapPost (place.child k) j
    let rest ← mapPostFields place rest
    pure ((k, j) :: rest)
end

-- Rebuilds the items of a list with `rebuild`; nothing comes of an item that exceeds its limit.
def mapItems (rebuild : Pointer → Json → m (Option Json)) (place : Pointer) (index : Nat) :
    List Json → m (Option (List Json))
  | [] => pure (some [])
  | j :: rest => do
    match ← rebuild (place.child (Pointer.ofIndex index)) j with
    | none => pure none
    | some j =>
      let rest ← mapItems rebuild place (index + 1) rest
      pure (rest.map (j :: ·))

def mapFields (rebuild : Pointer → Json → m (Option Json)) (place : Pointer) :
    List (String × Json) → m (Option (List (String × Json)))
  | [] => pure (some [])
  | (k, j) :: rest => do
    match ← rebuild (place.child k) j with
    | none => pure none
    | some j =>
      let rest ← mapFields rebuild place rest
      pure (rest.map ((k, j) :: ·))

-- Rebuilds a tree from the root down: the parts that are walked are those of the rebuilt node, so
-- that their depth has to be limited.
def mapPre : (levels : Nat) → Pointer → Json → m (Option Json)
  | 0, _, _ => pure none
  | levels + 1, place, j => do
    match ← f j place with
    | array items =>
      let items ← mapItems (mapPre levels) place 0 items
      pure (items.map array)
    | object fields =>
      let fields ← mapFields (mapPre levels) place fields
      pure (fields.map object)
    | scalar => pure (some scalar)

end Map

end JsonSchema.Json

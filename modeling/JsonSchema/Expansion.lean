import JsonSchema.Merge.Basic
import JsonSchema.Reference.Recursion

namespace JsonSchema

-- What happens to the keywords beside a reference whose target takes its place.
inductive SiblingPolicy where
  | merge
  -- They are given up, with a diagnostic.
  | ignore
  | reject
  deriving DecidableEq, Inhabited

structure Options where
  siblings              : SiblingPolicy := .merge
  combineAllOf          : Bool := true
  -- Move the required names of an array to its items, if these have properties of such names.
  relocateArrayRequired : Bool := true
  deriving DecidableEq, Inhabited

structure SiblingError where
  place    : Pointer
  keywords : List String
  deriving DecidableEq, Inhabited

-- A computation that adds diagnostics, which are kept also if it fails.
structure Diagnosed (α : Type) where
  diagnostics : List Diagnostic
  result      : Except SiblingError α
  deriving Inhabited

namespace Diagnosed

variable {α β : Type}

def pure (a : α) : Diagnosed α := ⟨[], .ok a⟩

def fail (e : SiblingError) : Diagnosed α := ⟨[], .error e⟩

def report (d : Diagnostic) : Diagnosed Unit := ⟨[d], .ok ()⟩

def bind (x : Diagnosed α) (f : α → Diagnosed β) : Diagnosed β :=
  match x.result with
  | .ok a => ⟨x.diagnostics ++ (f a).diagnostics, (f a).result⟩
  | .error e => ⟨x.diagnostics, .error e⟩

instance : Monad Diagnosed where
  pure := Diagnosed.pure
  bind := Diagnosed.bind

end Diagnosed

namespace Expansion

-- Keywords beside a reference that are kept whatever the settings say.
def lastingSiblings : List String :=
  ["definitions", "$defs", "$schema", "$id", "id", "$comment"]

structure Source where
  schema    : Json
  library   : Library
  recursive : ReferenceMap
  deriving Inhabited

namespace Source

def shorten (s : Source) (p : Pointer) : Pointer := s.recursive.shorten PointerTable.empty p

def find? (s : Source) (target : Pointer) : Option Json :=
  if target.isRoot then some s.schema
  else
    match s.library.get? (s.shorten target) with
    | some found => some found
    | none => (Json.firstOf? [(s.schema, target), (s.schema, s.shorten target)]).map (·.1)

-- The pointers that count as being expanded once `target` is.
def pointersOf (s : Source) (target : Pointer) : List Pointer :=
  if target.isRoot || s.shorten target = target then [target] else [target, s.shorten target]

end Source

-- A reference back: to the root, to an enclosing node, or to one that encloses an expanded one.
def leadsBack (used : List Pointer) (place target : Pointer) : Bool :=
  target.isRoot || place.isWithin target || used.any (·.isWithin target)

inductive Reference where
  -- The node makes no reference, or one that stays.
  | none
  | malformed (reference : String)
  | target (target : Pointer)

def referenceOf (used : List Pointer) (place : Pointer) (fields : Fields) : Reference :=
  match (Fields.get? fields "$ref").bind Json.asString? with
  | some reference =>
    match Pointer.parse? reference with
    | some target => if leadsBack used place target then .none else .target target
    | none => .malformed reference
  | none => .none

def foldAllOf? (fields : Fields) (members : List Json) : Option Json :=
  let rest := Fields.erase "allOf" fields
  Merge.tryMerge? (members ++ if rest.isEmpty then [] else [.object rest])

def combineAllOf : Json → Json
  | .object fields =>
    match Fields.get? fields "allOf" with
    | some (.array members) => (foldAllOf? fields members).getD (.object fields)
    | _ => .object fields
  | j => j

-- A schema for arrays, perhaps among other types.
def describesArray (type : Option Json) : Bool :=
  match type with
  | some (.string name) => name = "array"
  | some (.array names) => names.any (· == .string "array")
  | _ => false

-- A schema with properties of all the names, and without required names of its own.
def canRequire (names : List Json) (item : Json) : Bool :=
  (item.field? "required").isNone &&
    match (item.field? "properties").bind Json.asObject? with
    | some properties =>
      names.all fun name =>
        match name with
        | .string name => Fields.contains properties name
        | _ => false
    | none => false

-- Moves the required names of an array to its items, or to its additional ones.
def relocateRequired (fields : Fields) : Fields :=
  match Fields.get? fields "required" with
  | some (.array names) =>
    if describesArray (Fields.get? fields "type") then
      let target := ["items", "additionalItems"].find? fun keyword =>
        match Fields.get? fields keyword with
        | some item => canRequire names item
        | none => false
      match target with
      | some keyword =>
        Fields.modify keyword
          (fun item =>
            match item with
            | .object item => .object (Fields.insert "required" (.array names) item)
            | j => j)
          (Fields.erase "required" fields)
      | none => fields
    else fields
  | _ => fields

def withSiblings (policy : SiblingPolicy) (place : Pointer) (expanded : Json) (fields : Fields) :
    Diagnosed Json :=
  let siblings := Fields.erase "$ref" fields
  let keywords := (Fields.keys siblings).filter (!lastingSiblings.contains ·)
  if siblings.isEmpty then pure expanded
  else if keywords.isEmpty then pure (Merge.mergeAll [expanded, .object siblings])
  else
    match policy with
    | .merge => pure (Merge.mergeAll [expanded, .object siblings])
    | .ignore => do
      Diagnosed.report (.droppedSiblings place keywords)
      let kept := siblings.filter fun (key, _) => lastingSiblings.contains key
      pure (Merge.mergeAll [expanded, .object kept])
    | .reject => Diagnosed.fail ⟨place, keywords⟩

def tidy (options : Options) (place : Pointer) (fields : Fields) : Diagnosed Json :=
  let relocate (fields : Fields) : Json :=
    .object (if options.relocateArrayRequired then relocateRequired fields else fields)
  match options.combineAllOf, Fields.get? fields "allOf" with
  | true, some (.array members) =>
    match foldAllOf? fields members with
    | some (.object folded) => pure (relocate folded)
    | some j => pure j
    | none => do
      Diagnosed.report (.uncombinedAllOf place)
      pure (relocate fields)
  | _, _ => pure (relocate fields)

-- Rebuilds a node whose parts are rebuilt; `expand` gives the expanded target of a reference.
def rebuild (options : Options) (used : List Pointer)
    (expand : Pointer → Diagnosed (Option Json)) (j : Json) (place : Pointer) : Diagnosed Json :=
  match j with
  | .object fields =>
    match referenceOf used place fields with
    | .target target => do
      match ← expand target with
      | some expanded => withSiblings options.siblings place expanded fields
      | none =>
        Diagnosed.report (.unresolvedReference place target.fragment)
        pure (.object fields)
    | .malformed reference => do
      Diagnosed.report (.unresolvedReference place reference)
      tidy options place fields
    | .none => tidy options place fields
  | j => pure j

-- The node at a target with its references expanded, at most `depth` of them within each other;
-- `used` are the pointers that are being expanded.
def expandAlong (source : Source) (options : Options) :
    (depth : Nat) → (used : List Pointer) → (target : Pointer) → Diagnosed (Option Json)
  | 0, _, _ => pure none
  | depth + 1, used, target =>
    let used := used ++ source.pointersOf target
    match source.find? target with
    | none => pure none
    | some node => do
      let expanded ←
        node.mapPost (rebuild options used (expandAlong source options depth used)) target
      pure (some expanded)

mutual
def pointersIn : Json → List Pointer
  | .string s => (Pointer.parse? s).toList
  | .array items => pointersInItems items
  | .object fields => pointersInFields fields
  | _ => []

def pointersInItems : List Json → List Pointer
  | [] => []
  | j :: rest => pointersIn j ++ pointersInItems rest

def pointersInFields : List (String × Json) → List Pointer
  | [] => []
  | (_, j) :: rest => pointersIn j ++ pointersInFields rest
end

-- More expansions than there can be within each other: each has a target of its own, and every
-- target is named by a string of the schema or of the library.
def depthBound (source : Source) : Nat :=
  (pointersIn source.schema).length +
    (source.library.entries.flatMap fun (_, j) => pointersIn j).length + 2

def expand (source : Source) (options : Options) (p : Pointer) : Diagnosed (Option Json) :=
  expandAlong source options (depthBound source) [] p

end Expansion

end JsonSchema

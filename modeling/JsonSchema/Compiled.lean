import JsonSchema.Expansion
import JsonSchema.Position

namespace JsonSchema

structure CompiledSchema where
  schema           : Json
  schemaReferences : ReferenceMap
  dataReferences   : ReferenceMap
  arrays           : ArrayMap
  library          : Library
  diagnostics      : List Diagnostic
  deriving Inhabited

inductive CompileError where
  | notObject (found : String)
  | siblings (error : SiblingError)
  deriving DecidableEq, Inhabited

namespace CompiledSchema

def isDegraded (c : CompiledSchema) : Bool := !c.diagnostics.isEmpty

def shortenData (c : CompiledSchema) (p : Pointer) : Pointer := c.dataReferences.shorten c.arrays p

def schemaAt? (c : CompiledSchema) (p : Pointer) : Option Json :=
  (Position.schemaPointer? c.schema (c.shortenData p)).bind c.schema.get?

-- What is found at a node: a reference that is a pointer, perhaps to be redirected.
structure Finding where
  place      : Pointer
  target     : Pointer
  redirected : Bool

-- The reference of a node. One that does not lead to an enclosing node is redirected to the
-- shortest pointer for its own place, if that is another one.
def finding? (recursive : ReferenceMap) (place : Pointer) (j : Json) : Option Finding :=
  (j.reference?.bind Pointer.parse?).map fun target =>
    if place.isWithin target then ⟨place, target, false⟩
    else
      let short := recursive.shorten PointerTable.empty place
      if short = place then ⟨place, target, false⟩ else ⟨place, short, true⟩

-- The arity of the arrays that a node describes, if it says what their items are.
def arity? (j : Json) : Option Nat :=
  if Expansion.describesArray (j.field? "type") &&
      ((j.field? "items").isSome || (j.field? "additionalItems").isSome) then
    match j.field? "items" with
    | some (.array tuple) => some tuple.length
    | _ => some 0
  else none

def array? (schema : Json) (place : Pointer) (j : Json) : Option (Pointer × Nat) :=
  match arity? j, Position.dataPointer? schema place with
  | some arity, some p => some (p, arity)
  | _, _ => none

def redirect (schema : Json) (findings : List Finding) : Json :=
  (findings.filter (·.redirected)).foldl
    (fun schema finding =>
      (schema.modify? finding.place fun j =>
        match j with
        | .object fields => .object (Fields.insert "$ref" (.string finding.target.fragment) fields)
        | j => j).getD schema)
    schema

def dataReference? (schema : Json) (finding : Finding) : Option (Pointer × Pointer) :=
  match Position.dataPointer? schema finding.place, Position.dataPointer? schema finding.target with
  | some source, some target => some (source, target)
  | _, _ => none

-- The tables for an expanded schema, whose redirected references are written into it.
def ofExpanded (recursive : ReferenceMap) (expanded : Json) : CompiledSchema :=
  let nodes := expanded.nodes Pointer.root
  let findings := nodes.filterMap fun (place, j) => finding? recursive place j
  let schema := redirect expanded findings
  let findings := findings.filter fun finding => (schema.get? finding.target).isSome
  { schema
    schemaReferences := PointerTable.ofList (findings.map fun f => (f.place, f.target))
    dataReferences := PointerTable.ofList (findings.filterMap (dataReference? schema))
    arrays := PointerTable.ofList (nodes.filterMap fun (place, j) => array? expanded place j)
    library := PointerTable.ofList
      (findings.filterMap fun f => (schema.get? f.target).map fun j => (f.target, j))
    diagnostics := [] }

def sourceOf (schema : Json) : Expansion.Source × List Diagnostic :=
  let graph := ReferenceGraph.ofSchema schema
  let (library, diagnostics) := graph.library schema
  (⟨schema, library, ReferenceMap.ofEdges graph.closure⟩, diagnostics)

def compile (options : Options) (schema : Json) : Except CompileError CompiledSchema :=
  if schema.isObject then
    let (source, missing) := sourceOf schema
    let expansion := Expansion.expand source options Pointer.root
    match expansion.result with
    | .ok expanded =>
      let compiled := ofExpanded source.recursive (expanded.getD schema)
      .ok { compiled with diagnostics := Diagnostic.sort (missing ++ expansion.diagnostics) }
    | .error e => .error (.siblings e)
  else
    .error (.notObject schema.typeName)

end CompiledSchema

end JsonSchema

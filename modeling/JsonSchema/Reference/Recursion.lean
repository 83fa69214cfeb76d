import JsonSchema.Diagnostic
import JsonSchema.Json.Lookup
import JsonSchema.Reference.Graph
import JsonSchema.Reference.Shortening

namespace JsonSchema

namespace ReferenceMap

-- The recursive edges; of those with one source the first target counts.
def seeds (edges : List Edge) : ReferenceMap :=
  PointerTable.ofList ((edges.filter (·.isRecursive)).map fun e => (e.source, e.target))

-- The entry as it is seen at the source of `e`, if it lies in the target of `e`.
def seenThrough? (e : Edge) : Pointer × Pointer → Option (Pointer × Pointer)
  | (source, target) =>
    if source.isInside e.target && target.isWithin e.target then
      match source.rebase? e.target e.source, target.rebase? e.target e.source with
      | some source, some target => some (source, target)
      | _, _ => none
    else
      none

-- The entries seen at the sources of the other edges, unless these lie inside a recursive source.
def copies (edges : List Edge) (entries : List (Pointer × Pointer)) : List (Pointer × Pointer) :=
  let free := edges.filter fun e =>
    !e.isRecursive && !entries.any fun entry => e.source.isInside entry.1
  free.flatMap fun e => entries.filterMap (seenThrough? e)

def ofEdges (edges : List Edge) : ReferenceMap :=
  let seeds := seeds edges
  (copies edges seeds.entries).foldl (fun t (source, target) => t.insert source target) seeds

end ReferenceMap

namespace ReferenceGraph

def targets (schema : Json) : List Edge → Library → Library × List Diagnostic
  | [], library => (library, [])
  | e :: rest, library =>
    if library.contains e.target then targets schema rest library
    else
      match schema.get? e.target with
      | some found => targets schema rest (library.insert e.target found)
      | none =>
        let (library, diagnostics) := targets schema rest library
        (library, .unresolvedReference e.source e.target.fragment :: diagnostics)

def library (graph : ReferenceGraph) (schema : Json) : Library × List Diagnostic :=
  let (library, missing) := targets schema graph.edges PointerTable.empty
  (library, missing ++ graph.malformed.map fun (p, reference) => .unresolvedReference p reference)

end ReferenceGraph

end JsonSchema

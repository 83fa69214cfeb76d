import JsonSchema.Merge.Keyword

namespace JsonSchema.Merge

-- The keywords merged so far, and those that stay left out.
structure Merged where
  fields  : Fields
  dropped : List String
  deriving Inhabited

-- An `additionalProperties` that refuses or constrains what `properties` does not list.
def limitsOthers : Option Json → Bool
  | some (.bool false) => true
  | some (.object _) => true
  | _ => false

def listNothing (fields : Fields) : Fields :=
  if Fields.contains fields "properties" then fields
  else Fields.insert "properties" (.object []) fields

section

variable (merge : List Json → Option Json)

def mergeField? (earlier later : Option Json) (merged : Merged) (keyword : String) (value : Json) :
    Option Merged :=
  if keyword ∈ merged.dropped then some merged
  else
    match Fields.get? merged.fields keyword with
    | none => some { merged with fields := Fields.insert keyword value merged.fields }
    | some current =>
      if current == value then some merged
      else
        match mergeValues merge earlier later keyword current value with
        | .keep combined =>
          some { merged with fields := Fields.insert keyword combined merged.fields }
        | .drop => some ⟨Fields.erase keyword merged.fields, keyword :: merged.dropped⟩
        | .conflict => none

def mergeFieldList? (earlier later : Option Json) : Merged → Fields → Option Merged
  | merged, [] => some merged
  | merged, (keyword, value) :: rest =>
    (mergeField? merge earlier later merged keyword value).bind
      (mergeFieldList? earlier later · rest)

-- Merges one more schema. A side that lists no properties and restricts unlisted ones restricts all
-- properties of the other side, so it is given an empty list to be merged with.
def mergeObject? (merged : Merged) (schema : Fields) : Option Merged :=
  let earlier := Fields.get? merged.fields "additionalProperties"
  let later := Fields.get? schema "additionalProperties"
  let lists := Fields.contains schema "properties"
  let merged :=
    if lists && limitsOthers earlier then { merged with fields := listNothing merged.fields }
    else merged
  let schema :=
    if !lists && limitsOthers later && Fields.contains merged.fields "properties" then
      listNothing schema
    else schema
  mergeFieldList? merge earlier later merged schema

def mergeObjects? : Merged → List Fields → Option Merged
  | merged, [] => some merged
  | merged, schema :: rest => (mergeObject? merge merged schema).bind (mergeObjects? · rest)

end

-- Merges schemas that are nested in each other at most `levels` deep.
def mergeLevels? : (levels : Nat) → List Json → Option Json
  | 0, _ => none
  | levels + 1, schemas =>
    match substantial schemas with
    | [] => some (.object [])
    | [schema] => some schema
    | several => do
      let objects ← several.mapM Json.asObject?
      let merged ← mergeObjects? (mergeLevels? levels) ⟨[], []⟩ objects
      some (.object merged.fields)

def levelBound (schemas : List Json) : Nat :=
  (Json.sizeItems schemas + 2) * (Json.sizeItems schemas + 2)

def tryMerge? (schemas : List Json) : Option Json := mergeLevels? (levelBound schemas) schemas

def mergeAll (schemas : List Json) : Json := conjoin tryMerge? schemas

end JsonSchema.Merge

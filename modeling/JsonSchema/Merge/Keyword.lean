import JsonSchema.Json.Similarity
import JsonSchema.Merge.Multiple

-- The rules that go into the schemas below a keyword are given `merge`, which merges a list of
-- schemas or finds that they conflict.

namespace JsonSchema.Merge

-- A schema that everything satisfies: the empty object, or true.
def isIdentity : Json → Bool
  | .bool accepts => accepts
  | .object fields => fields.isEmpty
  | _ => false

def substantial (schemas : List Json) : List Json := schemas.filter (!isIdentity ·)

def allOf (members : List Json) : Json := .object [("allOf", .array members)]

def anyOf (members : List Json) : Json := .object [("anyOf", .array members)]

inductive Outcome where
  | keep (value : Json)
  -- The keyword is left out of the merged schema, whatever else is merged into it.
  | drop
  -- No schema without alternatives says both.
  | conflict
  deriving Inhabited

namespace Outcome

def ofOption : Option Json → Outcome
  | some value => keep value
  | none => conflict

end Outcome

inductive Rule where
  -- The members of both lists, merged to one if they can be.
  | conjunction
  | schema
  -- The members that both lists have.
  | alternatives
  -- Nothing identifies the merged schema.
  | identifier
  -- The later value stands.
  | remark
  | definitions
  | patterns
  | dependencies
  | properties
  | items
  | negation
  | types
  -- The names that one of the lists has, or the disjunction of flags.
  | names
  | flag
  | multiple
  | upperBound
  | lowerBound
  | conflict
  deriving DecidableEq

namespace Rule

def ofKeyword (keyword : String) : Rule :=
  if keyword = "allOf" then conjunction
  else if keyword ∈ ["additionalItems", "additionalProperties", "contains", "propertyNames"] then
    schema
  else if keyword ∈ ["anyOf", "oneOf", "enum"] then alternatives
  else if keyword ∈ ["$schema", "$id", "id"] then identifier
  else if keyword ∈ ["title", "description", "$comment"] then remark
  else if keyword ∈ ["definitions", "$defs"] then definitions
  else if keyword = "patternProperties" then patterns
  else if keyword = "dependencies" then dependencies
  else if keyword = "properties" then properties
  else if keyword = "items" then items
  else if keyword = "not" then negation
  else if keyword = "type" then types
  else if keyword = "required" then names
  else if keyword = "uniqueItems" then flag
  else if keyword = "multipleOf" then multiple
  else if keyword ∈ ["maximum", "exclusiveMaximum", "maxLength", "maxItems", "maxProperties"] then
    upperBound
  else if keyword ∈ ["minimum", "exclusiveMinimum", "minLength", "minItems", "minProperties"] then
    lowerBound
  else conflict

end Rule

section Schemas

variable (merge : List Json → Option Json)

-- One schema for all of the given ones: the merged one, or their conjunction if they conflict.
def conjoin (schemas : List Json) : Json :=
  (merge schemas).getD (allOf (substantial schemas))

def mergeConjunction : Json → Json → Outcome
  | .array left, .array right =>
    match merge (left ++ right) with
    | some single => .keep (.array [single])
    | none => .keep (.array (substantial (left ++ right)))
  | _, _ => .conflict

def mergeSchema? : Json → Json → Option Json
  | .bool false, _ => some (.bool false)
  | _, .bool false => some (.bool false)
  | .bool true, incoming => some incoming
  | current, .bool true => some current
  | .object current, .object incoming => some (conjoin merge [.object current, .object incoming])
  | _, _ => none

-- A dependency as a schema: a list of names requires them.
def dependencySchema? : Json → Option Json
  | .array names => some (.object [("required", .array names)])
  | .object fields => some (.object fields)
  | _ => none

def mergeDependency? : Json → Json → Option Json
  | .array left, .array right => some (.array (Json.union left right))
  | current, incoming =>
    match dependencySchema? current, dependencySchema? incoming with
    | some left, some right => some (conjoin merge [left, right])
    | _, _ => none

-- The fields of both objects; where both have a key with different values, `combine` decides.
def unionFields? (combine : Json → Json → Option Json) : Fields → Fields → Option Fields
  | current, [] => some current
  | current, (key, value) :: rest =>
    match Fields.get? current key with
    | none => unionFields? combine (Fields.insert key value current) rest
    | some existing =>
      if existing == value then unionFields? combine current rest
      else
        match combine existing value with
        | some combined => unionFields? combine (Fields.insert key combined current) rest
        | none => none

def mergeFields (combine : Json → Json → Option Json) : Json → Json → Outcome
  | .object current, .object incoming =>
    .ofOption ((unionFields? combine current incoming).map .object)
  | _, _ => .conflict

-- The listed properties under the `additionalProperties` of a schema that lists only `added`.
def restrictListed (additional : Option Json) (added existing : Fields) : Fields :=
  match additional with
  | some (.bool false) => existing.filter fun (key, _) => Fields.contains added key
  | some (.object extra) =>
    existing.map fun (key, property) =>
      if Fields.contains added key then (key, property)
      else (key, conjoin merge [property, .object extra])
  | _ => existing

-- Adds properties to those of earlier schemas, under the `additionalProperties` of these.
def addProperties? (additional : Option Json) : (merged added : Fields) → Option Fields
  | merged, [] => some merged
  | merged, (key, property) :: rest =>
    match Fields.get? merged key with
    | some existing =>
      if existing == property then addProperties? additional merged rest
      else
        match mergeSchema? merge existing property with
        | some combined => addProperties? additional (Fields.insert key combined merged) rest
        | none => none
    | none =>
      match additional with
      | some (.bool false) => addProperties? additional merged rest
      | some (.object extra) =>
        let combined := conjoin merge [.object extra, property]
        addProperties? additional (Fields.insert key combined merged) rest
      | _ => addProperties? additional (Fields.insert key property merged) rest

-- The properties of two schemas. What one of them does not list is subject to its
-- `additionalProperties`: `earlier` is that of the schemas merged before, `later` that of the
-- schema being merged.
def mergeProperties (earlier later : Option Json) : Json → Json → Outcome
  | .object existing, .object added =>
    let merged := restrictListed merge later added existing
    .ofOption ((addProperties? merge earlier merged added).map .object)
  | _, _ => .conflict

def mergeSlots (tuple : List Json) (list : Json) : Outcome :=
  if tuple.isEmpty then .conflict
  else .keep (.array (tuple.map fun slot => conjoin merge [slot, list]))

def mergeItems : Json → Json → Outcome
  | .array left, .array right =>
    let common := Json.intersect left right
    if common.isEmpty then .conflict else .keep (.array common)
  | .object left, .object right => .keep (conjoin merge [.object left, .object right])
  | .array tuple, .object list => mergeSlots merge tuple (.object list)
  | .object list, .array tuple => mergeSlots merge tuple (.object list)
  | _, _ => .conflict

end Schemas

def mergeAlternatives : Json → Json → Outcome
  | .array left, .array right =>
    let common := Json.intersect left right
    if common.isEmpty then .conflict else .keep (.array common)
  | _, _ => .conflict

-- What a negated schema refuses: the members of its alternatives, if it consists of them alone.
def refused : Json → List Json
  | .object [("anyOf", .array members)] => members
  | j => [j]

def mergeNegation : Json → Json → Outcome
  | .object current, .object incoming =>
    .keep (anyOf (Json.union (refused (.object current)) (refused (.object incoming))))
  | _, _ => .conflict

def typeNames? : Json → Option (List String)
  | .string name => some [name]
  | .array names => names.mapM Json.asString?
  | _ => none

-- The common part of a type and one of a list of types: an integer is a number.
def commonType? (names : List String) (name : String) : Option String :=
  if names.contains name then some name
  else if (name = "integer" ∧ names.contains "number") ∨
      (name = "number" ∧ names.contains "integer") then
    some "integer"
  else none

def mergeTypes (current incoming : Json) : Outcome :=
  match typeNames? current, typeNames? incoming with
  | some left, some right =>
    let common := (left.filterMap (commonType? right)).foldl
      (fun found name => if found.contains name then found else found ++ [name]) []
    match common with
    | [] => .conflict
    | [single] => .keep (.string single)
    | several => .keep (.ofStrings several)
  | _, _ => .conflict

def mergeFlags : Json → Json → Outcome
  | .bool left, .bool right => .keep (.bool (left || right))
  | _, _ => .conflict

def mergeNames : Json → Json → Outcome
  | .array left, .array right => .keep (.array (Json.union left right))
  | current, incoming => mergeFlags current incoming

def mergeMultiple : Json → Json → Outcome
  | .number left, .number right => .ofOption ((left.lcm? right).map .number)
  | _, _ => .conflict

-- The number that `tighter` prefers to the other; the current one if it prefers neither.
def mergeBound (tighter : Binary64 → Binary64 → Bool) : Json → Json → Outcome
  | .number current, .number incoming =>
    if tighter incoming.toBinary64 current.toBinary64 then .keep (.number incoming)
    else .keep (.number current)
  | _, _ => .conflict

def mergeValues (merge : List Json → Option Json) (earlier later : Option Json)
    (keyword : String) (current incoming : Json) : Outcome :=
  match Rule.ofKeyword keyword with
  | .conjunction => mergeConjunction merge current incoming
  | .schema => .ofOption (mergeSchema? merge current incoming)
  | .alternatives => mergeAlternatives current incoming
  | .identifier => .drop
  | .remark => .keep incoming
  | .definitions => mergeFields (fun _ _ => none) current incoming
  | .patterns => mergeFields (mergeSchema? merge) current incoming
  | .dependencies => mergeFields (mergeDependency? merge) current incoming
  | .properties => mergeProperties merge earlier later current incoming
  | .items => mergeItems merge current incoming
  | .negation => mergeNegation current incoming
  | .types => mergeTypes current incoming
  | .names => mergeNames current incoming
  | .flag => mergeFlags current incoming
  | .multiple => mergeMultiple current incoming
  | .upperBound => mergeBound Binary64.numLt current incoming
  | .lowerBound => mergeBound (fun x y => y.numLt x) current incoming
  | .conflict => .conflict

end JsonSchema.Merge

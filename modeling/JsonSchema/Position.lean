import JsonSchema.Json.Lookup

namespace JsonSchema.Position

-- The keywords whose members describe the position of the schema that holds them.
def sharesPosition (keyword : String) : Bool :=
  keyword = "allOf" || keyword = "anyOf" || keyword = "oneOf"

def member? (items : List Json) (token : String) : Option Json :=
  (Pointer.index? token).bind (items[·]?)

-- Follows steps of a schema from `node`, which describes the position `place`.
def dataAlong? (node : Json) (place : Pointer) : List String → Option Pointer
  | [] => some place
  | keyword :: rest =>
    if keyword = "properties" then
      match rest with
      | [] => none
      | key :: rest =>
        match (node.field? "properties").bind (·.field? key) with
        | some child => dataAlong? child (place.child key) rest
        | none => none
    else if keyword = "items" then
      match node.field? "items", rest with
      | none, _ => none
      | some (.array _), [] => none
      | some (.array tuple), index :: rest =>
        match member? tuple index with
        | some slot => dataAlong? slot (place.child index) rest
        | none => none
      | some items, rest => dataAlong? items (place.child Pointer.anyIndex) rest
    else if keyword = "additionalItems" then
      match node.field? "additionalItems" with
      | some extra => dataAlong? extra (place.child Pointer.anyIndex) rest
      | none => none
    else if sharesPosition keyword then
      match rest with
      | [] => none
      | index :: rest =>
        match ((node.field? keyword).bind Json.asArray?).bind (member? · index) with
        | some branch => dataAlong? branch place rest
        | none => none
    else none

-- The data position that the node at `p` describes; a node below another keyword describes none.
def dataPointer? (schema : Json) (p : Pointer) : Option Pointer :=
  dataAlong? schema Pointer.root p.tokens

-- The part of a schema for the items of an array: a slot of its own, or the part for all others.
def itemStep? (node : Json) (key : String) : Option (List String × Json) :=
  let index := Pointer.index? key
  if index.isSome || key = Pointer.anyIndex then
    match node.field? "items" with
    | some (.array tuple) =>
      match index.bind (tuple[·]?) with
      | some slot => some (["items", key], slot)
      | none =>
        match node.field? "additionalItems" with
        | some (.object fields) => some (["additionalItems"], .object fields)
        | _ => none
    | some (.object fields) => some (["items"], .object fields)
    | _ => none
  else
    none

def schemaStep? (node : Json) (key : String) : Option (List String × Json) :=
  match (node.field? "properties").bind (·.field? key) with
  | some property => some (["properties", key], property)
  | none =>
    match itemStep? node key with
    | some step => some step
    | none =>
      match node.field? "additionalProperties" with
      | some (.object fields) => some (["additionalProperties"], .object fields)
      | _ => none

def schemaAlong? (node : Json) (place : Pointer) : List String → Option Pointer
  | [] => some place
  | key :: rest =>
    match schemaStep? node key with
    | some (steps, next) => schemaAlong? next (place.append steps) rest
    | none => none

def schemaPointer? (schema : Json) (p : Pointer) : Option Pointer :=
  schemaAlong? schema Pointer.root p.tokens

end JsonSchema.Position

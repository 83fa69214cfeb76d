import JsonSchema.Validator.Basic

namespace JsonSchema

inductive Applicator where
  | properties
  | additionalProperties
  | items
  | contains
  | dependencies
  | allOf
  | anyOf
  | oneOf
  | not
  deriving DecidableEq

namespace Applicator

def ofName? : String → Option Applicator
  | "properties" => some properties
  | "additionalProperties" => some additionalProperties
  | "items" => some items
  | "contains" => some contains
  | "dependencies" => some dependencies
  | "allOf" => some allOf
  | "anyOf" => some anyOf
  | "oneOf" => some oneOf
  | "not" => some not
  | _ => none

end Applicator

namespace Validator

def knownNames (node : Fields) : List String :=
  (((Fields.get? node "properties").bind Json.asObject?).map Fields.keys).getD []

def hasFlag (node : Fields) (keyword : String) : Bool :=
  ((Fields.get? node keyword).bind Json.asBool?).getD false

def requiredNames (names : List Json) : Validator :=
  all ((names.filterMap Json.asString?).map fun name => within (atProperty name) required)

-- The validator of a keyword without schemas in a node. There, the flags of exclusive bounds change
-- the bounds beside them, and a list of names may be required.
def ofPlainIn? (node : Fields) (keyword : String) (config : Json) : Option Validator :=
  match keyword, config with
  | "exclusiveMinimum", .bool _ => none
  | "exclusiveMaximum", .bool _ => none
  | "minimum", .number limit =>
    some <| rule <|
      if hasFlag node "exclusiveMinimum" then .exclusiveMinimum limit else .minimum limit
  | "maximum", .number limit =>
    some <| rule <|
      if hasFlag node "exclusiveMaximum" then .exclusiveMaximum limit else .maximum limit
  | "required", .array names => some (requiredNames names)
  | keyword, config => ofPlain? keyword config

mutual
def ofSchema : Json → Validator
  | .bool false => falseSchema
  | .object node => all (ofKeywords node (ofAdditionalItems node) node)
  | _ => accept

-- The validators of the keywords of a node, given the one for the items behind a list of schemas.
def ofKeywords (node : Fields) (additionalItems : Option Validator) : Fields → List Validator
  | [] => []
  | (keyword, config) :: rest =>
    let own :=
      match Applicator.ofName? keyword with
      | some .properties => ofPropertiesIn? config
      | some .additionalProperties =>
        some (within (otherProperties (knownNames node)) (ofSchema config))
      | some .items => ofItemsIn? additionalItems config (ofSchema config)
      | some .contains => some (contains config (ofSchema config))
      | some .dependencies => ofDependenciesIn? config
      | some .allOf => (ofMembersIn? config).map all
      | some .anyOf => (ofMembersIn? config).map any
      | some .oneOf => (ofMembersIn? config).map one
      | some .not => some (negation (ofSchema config))
      | none => ofPlainIn? node keyword config
    own.toList ++ ofKeywords node additionalItems rest

def ofAdditionalItems : Fields → Option Validator
  | [] => none
  | (keyword, config) :: rest =>
    if keyword = "additionalItems" then some (ofSchema config) else ofAdditionalItems rest

def ofPropertiesIn? : Json → Option Validator
  | .object schemas => some (all (ofProperties schemas))
  | _ => none

-- One schema for all items, or a list with a schema for each of the first ones.
def ofItemsIn? (additionalItems : Option Validator) (schema : Json) (v : Validator) :
    Option Validator :=
  match schema with
  | .array schemas =>
    let others := additionalItems.map (within (everyItem schemas.length))
    some (all (ofTuple 0 schemas ++ others.toList))
  | .object _ => some (within (everyItem 0) v)
  | .bool _ => some (within (everyItem 0) v)
  | _ => none

def ofDependenciesIn? : Json → Option Validator
  | .object rules => some (dependent (ofDependencies rules))
  | _ => none

-- The members of an `allOf`, `anyOf` or `oneOf`. The validator of one that is no array would be that
-- of the node which consists of it, and that would be its validator again. As compiling it never
-- ends, there is no validator to speak of, and the keyword is left out.
def ofMembersIn? : Json → Option (List Validator)
  | .array schemas => some (ofSchemas schemas)
  | _ => none

def ofSchemas : List Json → List Validator
  | [] => []
  | schema :: rest => ofSchema schema :: ofSchemas rest

def ofTuple (index : Nat) : List Json → List Validator
  | [] => []
  | schema :: rest => within (atIndex index) (ofSchema schema) :: ofTuple (index + 1) rest

def ofProperties : Fields → List Validator
  | [] => []
  | (name, schema) :: rest => within (atProperty name) (ofSchema schema) :: ofProperties rest

def ofDependencies : Fields → List (String × Dependency Validator)
  | [] => []
  | (name, .array names) :: rest =>
    (name, .names (names.filterMap Json.asString?)) :: ofDependencies rest
  | (name, .object fields) :: rest =>
    (name, .schema (ofSchema (.object fields))) :: ofDependencies rest
  | (name, .bool b) :: rest => (name, .schema (ofSchema (.bool b))) :: ofDependencies rest
  | _ :: rest => ofDependencies rest
end

-- The validator of a single keyword. The schemas for the parts of a value belong together in a
-- node, and have none. A combination of schemas is compiled as the only keyword of a node, where one
-- that is no array would be compiled in the same way again, and so on without end.
def ofKeyword? (keyword : String) (config : Json) : Option Validator :=
  match Applicator.ofName? keyword with
  | some .contains => some (contains config (ofSchema config))
  | some .dependencies => ofDependenciesIn? config
  | some .allOf | some .anyOf | some .oneOf | some .not =>
    some (ofSchema (.object [(keyword, config)]))
  | some _ => none
  | none => ofPlain? keyword config

-- All of the validators of single keywords, without regard to each other.
def ofKeywordsApart (node : Fields) : Validator :=
  all (node.filterMap fun (keyword, config) => ofKeyword? keyword config)

end Validator

end JsonSchema

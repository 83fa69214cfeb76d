import JsonSchema.Validator.Rule

namespace JsonSchema

inductive DependencyFailure (F : Type) where
  | missing (names : List String)
  | invalid (failure : F)

inductive Failure where
  | required
  | rule (r : Rule) (value : Json)
  | contains (schema value : Json)
  | dependencies (failures : List (String × DependencyFailure Failure))
  | falseSchema
  -- A validator holds that was expected not to, and has nothing to say about it.
  | matched (keyword : String)
  | property (name : String) (failure : Failure)
  | item (index : Nat) (failure : Failure)
  | allOf (members : List Failure)
  | anyOf (members : List Failure)
  | oneOf (members : List Failure)
  deriving Inhabited

namespace Failure

def keyword : Failure → String
  | required => "required"
  | rule r _ => r.keyword
  | contains _ _ => "contains"
  | dependencies _ => "dependencies"
  | falseSchema => "falseSchema"
  | matched _ => "matched"
  | property _ _ => "properties"
  | item _ _ => "items"
  | allOf _ => "allOf"
  | anyOf _ => "anyOf"
  | oneOf _ => "oneOf"

def members : Failure → List Failure
  | allOf fs => fs
  | anyOf fs => fs
  | oneOf fs => fs
  | _ => []

mutual
def toJson : Failure → Json
  | required => .object [("required", .bool true)]
  | rule r value => .object [(r.keyword, .object (r.report value))]
  | contains schema value =>
    .object [("contains", .object [("currentValue", value), ("requiredItem", schema)])]
  | dependencies failures => .object [("dependencies", .object (dependenciesJson failures))]
  | falseSchema => .object [("falseSchema", .bool true)]
  | matched keyword => .object [("matched", .string keyword)]
  | property name failure =>
    .object [("property", .object [("error", failure.toJson), ("property", .string name)])]
  | item index failure =>
    .object [("item", .object [("error", failure.toJson), ("index", .ofNat index)])]
  | allOf fs => .object [("allOf", .array (membersJson fs))]
  | anyOf fs => .object [("anyOf", .array (membersJson fs))]
  | oneOf fs => .object [("oneOf", .array (membersJson fs))]

def membersJson : List Failure → List Json
  | [] => []
  | f :: fs => f.toJson :: membersJson fs

def dependenciesJson : List (String × DependencyFailure Failure) → Fields
  | [] => []
  | (name, .missing names) :: rest =>
    (name, .object [("missing", .ofStrings names)]) :: dependenciesJson rest
  | (name, .invalid failure) :: rest =>
    (name, .object [("invalid", failure.toJson)]) :: dependenciesJson rest
end

end Failure

end JsonSchema

import JsonSchema.Format.Basic
import JsonSchema.Json.Similarity

namespace JsonSchema

inductive Rule where
  | type (types : Json)
  | enum (allowed : List Json)
  | const (value : Json)
  | minLength (limit : Nat)
  | maxLength (limit : Nat)
  | pattern (text : String) (p : Pattern)
  | format (f : Format)
  | minimum (limit : Number)
  | exclusiveMinimum (limit : Number)
  | maximum (limit : Number)
  | exclusiveMaximum (limit : Number)
  | multipleOf (divisor : Number)
  | minProperties (limit : Nat)
  | maxProperties (limit : Nat)
  | minItems (limit : Nat)
  | maxItems (limit : Nat)
  | uniqueItems

namespace Rule

def keyword : Rule → String
  | type _ => "type"
  | enum _ => "enum"
  | const _ => "const"
  | minLength _ => "minLength"
  | maxLength _ => "maxLength"
  | pattern _ _ => "pattern"
  | format _ => "format"
  | minimum _ => "minimum"
  | exclusiveMinimum _ => "exclusiveMinimum"
  | maximum _ => "maximum"
  | exclusiveMaximum _ => "exclusiveMaximum"
  | multipleOf _ => "multipleOf"
  | minProperties _ => "minProperties"
  | maxProperties _ => "maxProperties"
  | minItems _ => "minItems"
  | maxItems _ => "maxItems"
  | uniqueItems => "uniqueItems"

def typeNames : Json → List String
  | .string name => [name]
  | .array names => names.filterMap Json.asString?
  | _ => []

def length? (j : Json) : Option Nat := j.asString?.map String.length

def propertyCount? (j : Json) : Option Nat := j.asObject?.map List.length

def itemCount? (j : Json) : Option Nat := j.asArray?.map List.length

def binary64? (j : Json) : Option Binary64 := j.asNumber?.map Number.toBinary64

-- How far a quotient may be from a whole number, for each unit of its magnitude.
def tolerance : Binary64 := .ofDecimal false 1 (-9)

def isMultiple (x divisor : Binary64) : Bool :=
  let quotient := x.div divisor
  let distance := (quotient.sub quotient.roundWhole).abs
  distance.numLe (tolerance.mul (quotient.abs.numMax (.ofInt 1)))

-- A rule about one type of values says nothing about values of another type. Each item of an array
-- has to be allowed where values are listed.
def holds : Rule → Json → Bool
  | type types, j => (typeNames types).any (j.isOfType ·)
  | enum allowed, j =>
    let isAllowed := fun item => allowed.any (Json.similar · item)
    match j with
    | .array items => items.all isAllowed
    | j => isAllowed j
  | const value, j => Json.similar value j
  | minLength limit, j => (length? j).all (limit ≤ ·)
  | maxLength limit, j => (length? j).all (· ≤ limit)
  | pattern _ p, j => j.asString?.all p.occursIn
  | format f, j => j.asString?.all (f.admits ·)
  | minimum limit, j => (binary64? j).all (limit.toBinary64.numLe ·)
  | exclusiveMinimum limit, j => (binary64? j).all (limit.toBinary64.numLt ·)
  | maximum limit, j => (binary64? j).all (·.numLe limit.toBinary64)
  | exclusiveMaximum limit, j => (binary64? j).all (·.numLt limit.toBinary64)
  | multipleOf divisor, j => (binary64? j).all (isMultiple · divisor.toBinary64)
  | minProperties limit, j => (propertyCount? j).all (limit ≤ ·)
  | maxProperties limit, j => (propertyCount? j).all (· ≤ limit)
  | minItems limit, j => (itemCount? j).all (limit ≤ ·)
  | maxItems limit, j => (itemCount? j).all (· ≤ limit)
  | uniqueItems, j => j.asArray?.all fun items => (Json.repeated items).isEmpty

def report (r : Rule) (j : Json) : Fields :=
  let value := ("currentValue", j)
  let count (n : Option Nat) := Json.ofNat (n.getD 0)
  match r with
  | type types => [value, ("requiredType", types)]
  | enum allowed => [("allowedValues", .array allowed), value]
  | const required => [value, ("requiredValue", required)]
  | minLength n => [("currentLength", count (length? j)), ("minimumLength", .ofNat n)]
  | maxLength n => [("currentLength", count (length? j)), ("maximumLength", .ofNat n)]
  | pattern text _ => [value, ("requiredPattern", .string text)]
  | format f => [value, ("requiredFormat", .string f.name)]
  | minimum n => [value, ("minimumValue", .number n)]
  | exclusiveMinimum n => [value, ("exclusiveMinimumValue", .number n)]
  | maximum n => [value, ("maximumValue", .number n)]
  | exclusiveMaximum n => [value, ("exclusiveMaximumValue", .number n)]
  | multipleOf n => [value, ("multipleOfValue", .number n)]
  | minProperties n =>
    [("currentProperties", count (propertyCount? j)), ("minimumProperties", .ofNat n)]
  | maxProperties n =>
    [("currentProperties", count (propertyCount? j)), ("maximumProperties", .ofNat n)]
  | minItems n => [("currentItems", count (itemCount? j)), ("minimumItems", .ofNat n)]
  | maxItems n => [("currentItems", count (itemCount? j)), ("maximumItems", .ofNat n)]
  | uniqueItems => [("duplicateItems", .array (Json.repeated (j.asArray?.getD [])))]

def ofKeyword? (keyword : String) (config : Json) : Option Rule :=
  match keyword with
  | "enum" => config.asArray?.map enum
  | "const" => some (const config)
  | "minLength" => config.asNat?.map minLength
  | "maxLength" => config.asNat?.map maxLength
  | "minimum" => config.asNumber?.map minimum
  | "exclusiveMinimum" => config.asNumber?.map exclusiveMinimum
  | "maximum" => config.asNumber?.map maximum
  | "exclusiveMaximum" => config.asNumber?.map exclusiveMaximum
  | "minProperties" => config.asNat?.map minProperties
  | "maxProperties" => config.asNat?.map maxProperties
  | "minItems" => config.asNat?.map minItems
  | "maxItems" => config.asNat?.map maxItems
  | "type" =>
    match config with
    | .string _ => some (type config)
    | .array names => if names.all (·.asString?.isSome) then some (type config) else none
    | _ => none
  | _ => none

end Rule

end JsonSchema

import JsonSchema.Validator.Failure

namespace JsonSchema

inductive Dependency (V : Type) where
  | names (names : List String)
  | schema (validator : V)

inductive Validator where
  -- Everything passes, also inverted.
  | accept
  -- The negation of `accept`: values that are not empty fail.
  | reject
  | falseSchema
  | required
  | rule (r : Rule)
  -- An item of an array satisfies a validator, which was made from a schema.
  | contains (schema : Json) (v : Validator)
  | dependencies (rules : List (String × Dependency Validator))
  | allOf (members : List Validator)
  | anyOf (members : List Validator)
  -- Exactly one passes of these members and others, of which so many are known to pass.
  | oneOf (passing : Nat) (members : List Validator)
  | not (v : Validator)
  -- As `not`, under the name of the validator itself.
  | inverse (v : Validator)
  | atProperty (name : String) (v : Validator)
  | atIndex (index : Nat) (v : Validator)
  | everyItem (start : Nat) (v : Validator)
  | otherProperties (known : List String) (v : Validator)
  deriving Inhabited

namespace Validator

def label : Validator → String
  | accept => "null"
  | reject => "not"
  | falseSchema => "falseSchema"
  | required => "required"
  | rule r => r.keyword
  | contains _ _ => "contains"
  | dependencies _ => "dependencies"
  | allOf _ => "allOf"
  | anyOf _ => "anyOf"
  | oneOf _ _ => "oneOf"
  | not _ => "not"
  | inverse v => v.label
  | atProperty _ _ => "properties"
  | atIndex _ _ => "items"
  | everyItem _ _ => "items"
  | otherProperties _ _ => "additionalProperties"

def isNull : Validator → Bool
  | accept => true
  | _ => false

-- The failure of a validator that has nothing finer to report. Empty values pass.
def matched (label : String) (value : Option Json) : Option Failure :=
  if Json.isEmpty value then none else some (.matched label)

def failWith (label : String) (value : Option Json) (wrap : List Failure → Failure)
    (parts : List Failure) : Option Failure :=
  if parts.isEmpty then matched label value else some (wrap parts)

-- The step to a property of an object; a value of another type has none.
def propertyOf? (name : String) (value : Option Json) : Option (Option Json) :=
  value.bind fun j => j.asObject?.map (Fields.get? · name)

def itemOf? (index : Nat) (value : Option Json) : Option (Option Json) :=
  value.bind fun j => j.asArray?.map (·[index]?)

-- The check of a validator for a part of a value, given the checks of the validator for that part
-- as it stands and inverted.
def focus (label : String) (value : Option Json) (invert : Bool) (check : Bool → Option Failure) :
    Option Failure :=
  match check false, invert with
  | failure, false => failure
  | some _, true => none
  | none, true => (check true).or (matched label value)

-- The check of a validator for all of some parts of a value, given the failures of the parts as
-- they stand and inverted.
def checkParts (label : String) (value : Option Json) (invert : Bool)
    (failures : Bool → List Failure) : Option Failure :=
  match (failures false).isEmpty, invert with
  | true, false => none
  | false, true => none
  | true, true => failWith label value .allOf (failures true)
  | false, false => failWith label value .allOf (failures false)

def itemsFrom (start : Nat) (value : Option Json) : List (Json × Nat) :=
  ((value.bind Json.asArray?).getD []).zipIdx.drop start

def propertiesBut (known : List String) (value : Option Json) : Fields :=
  ((value.bind Json.asObject?).getD []).filter fun (name, _) => !known.contains name

def missingNames (fields : Fields) (names : List String) : List String :=
  names.filter fun name => !Json.hasValue (Fields.get? fields name)

mutual
-- Why a value, which may be absent, fails as it stands or under inversion. Empty values pass, but
-- for `required`.
def check : Validator → (invert : Bool) → Option Json → Option Failure
  | accept, _, _ => none
  | reject, invert, value => if invert then none else matched "not" value
  | falseSchema, invert, value =>
    if !invert && !Json.isEmpty value then some .falseSchema else none
  | required, invert, value => if Json.hasValue value != invert then none else some .required
  | rule r, invert, value =>
    (Json.filled? value).bind fun j => if r.holds j != invert then none else some (.rule r j)
  | contains schema v, invert, value =>
    (Json.filled? value).bind fun j =>
      let holds := j.asArray?.all fun items => items.any fun i => (v.check false (some i)).isNone
      if holds != invert then none else some (.contains schema j)
  | dependencies rules, invert, value =>
    (Json.filled? value).bind fun j =>
      let failures := (j.asObject?.map (unmet rules · j)).getD []
      if failures.isEmpty != invert then none else some (.dependencies failures)
  | allOf members, invert, value =>
    let failed := failures members false value
    if failed.isEmpty != invert then none
    else failWith "allOf" value .allOf (if invert then inverseOfPassing members value else failed)
  | anyOf members, invert, value =>
    if anyPasses members value != invert then none
    else failWith "anyOf" value .anyOf
      (if invert then inverseOfPassing members value else failures members false value)
  | oneOf passing members, invert, value =>
    if (countPassing members value + passing = 1) != invert then none
    else failWith "oneOf" value .oneOf
      (failures members false value ++ inverseOfPassing members value)
  | not v, invert, value => v.check (!invert) value
  | inverse v, invert, value => v.check (!invert) value
  | atProperty name v, invert, value =>
    focus "properties" value invert fun i =>
      (propertyOf? name value).bind fun part => (v.check i part).map (.property name)
  | atIndex index v, invert, value =>
    focus "items" value invert fun i =>
      (itemOf? index value).bind fun part => (v.check i part).map (.item index)
  | everyItem start v, invert, value =>
    checkParts "items" value invert fun i =>
      (itemsFrom start value).filterMap fun (j, index) => (v.check i (some j)).map (.item index)
  | otherProperties known v, invert, value =>
    checkParts "additionalProperties" value invert fun i =>
      (propertiesBut known value).filterMap fun (name, j) =>
        (v.check i (some j)).map (.property name)

def failures : List Validator → (invert : Bool) → Option Json → List Failure
  | [], _, _ => []
  | v :: vs, invert, value => (v.check invert value).toList ++ failures vs invert value

def anyPasses : List Validator → Option Json → Bool
  | [], _ => false
  | v :: vs, value => (v.check false value).isNone || anyPasses vs value

def countPassing : List Validator → Option Json → Nat
  | [], _ => 0
  | v :: vs, value => (if (v.check false value).isNone then 1 else 0) + countPassing vs value

-- The failures of the inversions of those members that pass.
def inverseOfPassing : List Validator → Option Json → List Failure
  | [], _ => []
  | v :: vs, value =>
    (if (v.check false value).isNone then (v.check true value).toList else []) ++
      inverseOfPassing vs value

def unmet : List (String × Dependency Validator) → Fields → Json →
    List (String × DependencyFailure Failure)
  | [], _, _ => []
  | (name, .names names) :: rest, fields, j =>
    let missing := missingNames fields names
    if Json.hasValue (Fields.get? fields name) && !missing.isEmpty then
      (name, .missing missing) :: unmet rest fields j
    else
      unmet rest fields j
  | (name, .schema v) :: rest, fields, j =>
    match if Json.hasValue (Fields.get? fields name) then v.check false (some j) else none with
    | some failure => (name, .invalid failure) :: unmet rest fields j
    | none => unmet rest fields j
end

def validate (v : Validator) (value : Option Json) : Option Failure := v.check false value

def isValid (v : Validator) (j : Json) : Bool := (v.validate (some j)).isNone

def active (members : List Validator) : List Validator := members.filter (!·.isNull)

def all (members : List Validator) : Validator :=
  match active members with
  | [] => accept
  | [v] => v
  | members => allOf members

def any (members : List Validator) : Validator :=
  if members.isEmpty || members.any isNull then accept else anyOf members

def one (members : List Validator) : Validator :=
  let passing := members.countP isNull
  if (active members).isEmpty && passing ≤ 1 then accept else oneOf passing (active members)

-- What a validator does not accept, under its own name.
def negate : Validator → Validator
  | accept => reject
  | v => inverse v

-- What a validator does not accept, under the name of negation.
def negation : Validator → Validator
  | accept => reject
  | v => not v

def within (step : Validator → Validator) : Validator → Validator
  | accept => accept
  | v => step v

def requiredIf (on : Bool) : Validator := if on then required else accept

def uniqueItemsIf (on : Bool) : Validator := if on then rule .uniqueItems else accept

-- A pattern that occurs in a text or, with `whole`, covers it. What denotes no pattern accepts
-- everything.
def pattern (text : String) (whole : Bool) : Validator :=
  match if whole then Pattern.parseWhole? text else Pattern.parse? text with
  | some p => rule (.pattern text p)
  | none => accept

-- A format by its name. An unknown name accepts everything.
def format (name : String) : Validator :=
  match Format.ofName? name with
  | some f => rule (.format f)
  | none => accept

-- The multiples of a positive number. Any other number accepts everything.
def multipleOf (divisor : Number) : Validator :=
  if (Binary64.ofInt 0).numLt divisor.toBinary64 then rule (.multipleOf divisor) else accept

def dependent (rules : List (String × Dependency Validator)) : Validator :=
  if rules.isEmpty then accept else dependencies rules

def ofPlain? (keyword : String) (config : Json) : Option Validator :=
  match keyword with
  | "required" => config.asBool?.map requiredIf
  | "uniqueItems" => config.asBool?.map uniqueItemsIf
  | "pattern" => config.asString?.map (pattern · false)
  | "format" => config.asString?.map format
  | "multipleOf" => config.asNumber?.map multipleOf
  | keyword => (Rule.ofKeyword? keyword config).map rule

end Validator

end JsonSchema

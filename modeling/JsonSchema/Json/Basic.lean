import JsonSchema.Json.Number

namespace JsonSchema

inductive Json where
  | null
  | bool (value : Bool)
  | number (value : Number)
  | string (value : String)
  | array (items : List Json)
  | object (fields : List (String × Json))
  deriving Inhabited

abbrev Fields := List (String × Json)

namespace Fields

def get? {α} : List (String × α) → String → Option α
  | [], _ => none
  | (k, v) :: rest, key => if k = key then some v else get? rest key

def contains {α} (fields : List (String × α)) (key : String) : Bool :=
  (get? fields key).isSome

-- Writes a field at its place in the order of keys, over the field of that key if there is one.
def insert {α} (key : String) (value : α) : List (String × α) → List (String × α)
  | [] => [(key, value)]
  | (k, v) :: rest =>
    if key < k then (key, value) :: (k, v) :: rest
    else if key = k then (key, value) :: rest
    else (k, v) :: insert key value rest

def erase {α} (key : String) (fields : List (String × α)) : List (String × α) :=
  fields.filter (·.1 ≠ key)

def keys {α} (fields : List (String × α)) : List String :=
  fields.map (·.1)

def modify {α} (key : String) (f : α → α) (fields : List (String × α)) : List (String × α) :=
  fields.map fun (k, v) => if k = key then (k, f v) else (k, v)

-- The fields in the order of their keys; of two fields of one key the later counts.
def ofList {α} (fields : List (String × α)) : List (String × α) :=
  fields.foldl (fun sorted (k, v) => insert k v sorted) []

def Sorted {α} (fields : List (String × α)) : Prop :=
  fields.Pairwise (·.1 < ·.1)

end Fields

namespace Json

mutual
-- Equality of documents. Numbers of different kinds differ, and the two zeros of binary64 do not.
def same : Json → Json → Bool
  | null, null => true
  | bool a, bool b => a == b
  | number a, number b => a.same b
  | string a, string b => a == b
  | array a, array b => sameItems a b
  | object a, object b => sameFields a b
  | _, _ => false

def sameItems : List Json → List Json → Bool
  | [], [] => true
  | a :: as, b :: bs => same a b && sameItems as bs
  | _, _ => false

def sameFields : List (String × Json) → List (String × Json) → Bool
  | [], [] => true
  | (k, a) :: as, (l, b) :: bs => k == l && same a b && sameFields as bs
  | _, _ => false
end

instance : BEq Json where
  beq := same

mutual
-- The keys of every object rise by code points, and every number is one that can be read. Every
-- operation on documents keeps this.
def WellFormed : Json → Prop
  | number n => n.WellFormed
  | array items => WellFormedItems items
  | object fields => Fields.Sorted fields ∧ WellFormedFields fields
  | _ => True

def WellFormedItems : List Json → Prop
  | [] => True
  | j :: rest => WellFormed j ∧ WellFormedItems rest

def WellFormedFields : List (String × Json) → Prop
  | [] => True
  | (_, j) :: rest => WellFormed j ∧ WellFormedFields rest
end

mutual
def size : Json → Nat
  | array items => sizeItems items + 1
  | object fields => sizeFields fields + 1
  | _ => 1

def sizeItems : List Json → Nat
  | [] => 0
  | j :: rest => size j + sizeItems rest

def sizeFields : List (String × Json) → Nat
  | [] => 0
  | (_, j) :: rest => size j + sizeFields rest
end

def isNull : Json → Bool
  | null => true
  | _ => false

def isObject : Json → Bool
  | object _ => true
  | _ => false

def isArray : Json → Bool
  | array _ => true
  | _ => false

def asBool? : Json → Option Bool
  | bool b => some b
  | _ => none

def asString? : Json → Option String
  | string s => some s
  | _ => none

def asNumber? : Json → Option Number
  | number n => some n
  | _ => none

def asNat? (j : Json) : Option Nat :=
  j.asNumber?.bind Number.toNat?

def asArray? : Json → Option (List Json)
  | array items => some items
  | _ => none

def asObject? : Json → Option Fields
  | object fields => some fields
  | _ => none

def field? (j : Json) (key : String) : Option Json :=
  j.asObject?.bind (Fields.get? · key)

def typeName : Json → String
  | null => "null"
  | bool _ => "boolean"
  | number _ => "number"
  | string _ => "string"
  | array _ => "array"
  | object _ => "object"

def isScalar : Json → Bool
  | array _ => false
  | object _ => false
  | _ => true

def ofNat (n : Nat) : Json := number (.integer n)

def ofStrings (names : List String) : Json := array (names.map string)

def isEmpty : Option Json → Bool
  | none => true
  | some null => true
  | some (string s) => s.isEmpty
  | some (array items) => items.isEmpty
  | some (object fields) => fields.isEmpty
  | some (bool _) => false
  | some (number _) => false

-- Anything but null and the empty text.
def hasValue : Option Json → Bool
  | none => false
  | some null => false
  | some (string s) => !s.isEmpty
  | some _ => true

def filled? (value : Option Json) : Option Json := value.filter fun j => !isEmpty (some j)

-- Whether a value is of a type. A number without a fractional part is an integer, too.
def isOfType (type : String) (j : Json) : Bool :=
  match j with
  | number n => type = "number" || (type = "integer" && n.isWhole)
  | j => type = j.typeName

end Json

end JsonSchema

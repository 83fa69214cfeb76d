import JsonSchema.Pointer.Table

namespace JsonSchema.Json

def step? (j : Json) (token : String) : Option Json :=
  match j with
  | object fields => Fields.get? fields token
  | array items => (Pointer.index? token).bind (items[·]?)
  | _ => none

def follow? (j : Json) : List String → Option Json
  | [] => some j
  | token :: rest => (j.step? token).bind (·.follow? rest)

def get? (j : Json) (p : Pointer) : Option Json := j.follow? p.tokens

def firstOf? : List (Json × Pointer) → Option (Json × Pointer)
  | [] => none
  | (j, p) :: rest =>
    match j.get? p with
    | some found => some (found, p)
    | none => firstOf? rest

def orObject : Json → Json
  | null => object []
  | j => j

def setStep? (value : Json) (token : String) : Json → Option Json
  | object fields => some (object (Fields.insert token value fields))
  | array items =>
    if token = Pointer.anyIndex then some (array (items ++ [value]))
    else
      match Pointer.index? token with
      | some i =>
        if i < items.length then some (array (items.set i value))
        else if i = items.length then some (array (items ++ [value]))
        else none
      | none => none
  | _ => none

-- Whether the value was written, and the tree after the attempt.
def setAlong (value : Json) : List String → Json → Bool × Json
  | [], _ => (true, value)
  | [token], j =>
    match setStep? value token j.orObject with
    | some written => (true, written)
    | none => (false, j.orObject)
  | token :: rest, j =>
    match j.orObject with
    | object fields =>
      let (done, child) := setAlong value rest ((Fields.get? fields token).getD null)
      (done, object (Fields.insert token child fields))
    | array items =>
      if token = Pointer.anyIndex then
        let (done, child) := setAlong value rest null
        (done, array (items ++ [child]))
      else
        match Pointer.index? token with
        | some i =>
          match items[i]? with
          | some item =>
            let (done, child) := setAlong value rest item
            (done, array (items.set i child))
          | none => (false, array items)
        | none => (false, array items)
    | scalar => (false, scalar)

-- Writes a value at a pointer, if the path allows it: objects are made where the path is missing or
-- null, and the step `-` appends to an array. A failed attempt may leave new nodes.
def set (j : Json) (p : Pointer) (value : Json) : Bool × Json := setAlong value p.tokens j

def modifyAlong? (f : Json → Json) : List String → Json → Option Json
  | [], j => some (f j)
  | token :: rest, object fields =>
    match Fields.get? fields token with
    | some child =>
      (modifyAlong? f rest child).map fun child => object (Fields.insert token child fields)
    | none => none
  | token :: rest, array items =>
    match Pointer.index? token with
    | some i =>
      match items[i]? with
      | some item => (modifyAlong? f rest item).map fun child => array (items.set i child)
      | none => none
    | none => none
  | _ :: _, _ => none

def modify? (j : Json) (p : Pointer) (f : Json → Json) : Option Json := modifyAlong? f p.tokens j

def replace? (j : Json) (p : Pointer) (value : Json) : Option Json := j.modify? p fun _ => value

end JsonSchema.Json

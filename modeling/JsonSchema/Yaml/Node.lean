import JsonSchema.Yaml.Token

namespace JsonSchema.Yaml

inductive Node where
  | scalar (tag : Option String) (style : ScalarStyle) (text : String)
  | sequence (tag : Option String) (items : List Node)
  | mapping (tag : Option String) (fields : List (Node × Node))
  deriving Inhabited

def Node.empty : Node := .scalar none .plain ""

structure Names where
  anchors : List (String × Node) := []
  handles : List (String × String) := []

namespace Names

def tag? (names : Names) (handle suffix : String) : Option String :=
  if handle.isEmpty then some suffix
  else
    match names.handles.lookup handle with
    | some meaning => some (meaning ++ suffix)
    | none =>
      if handle = "!" then some ("!" ++ suffix)
      else if handle = "!!" then some ("tag:yaml.org,2002:" ++ suffix)
      else none

def define (names : Names) (anchor : Option String) (node : Node) : Names :=
  match anchor with
  | some name => { names with anchors := (name, node) :: names.anchors }
  | none => names

end Names

structure Properties where
  anchor : Option String := none
  tag    : Option String := none

namespace Properties

def isNone (p : Properties) : Bool := p.anchor.isNone && p.tag.isNone

def read? (names : Names) : Properties → List Token → Option (Properties × List Token)
  | p, .anchor name :: rest =>
    if p.anchor.isSome then some (p, .anchor name :: rest)
    else read? names { p with anchor := some name } rest
  | p, .tag handle suffix :: rest =>
    if p.tag.isSome then some (p, .tag handle suffix :: rest)
    else
      match names.tag? handle suffix with
      | some tag => read? names { p with tag := some tag } rest
      | none => none
  | p, rest => some (p, rest)

end Properties

-- Where a node stands, which decides what may begin there and where an empty node ends.
inductive Place where
  | document
  | blockEntry
  -- An entry of a sequence that is not indented.
  | flatEntry
  | blockMapping
  | flowKey
  | flowValue
  | flowItem
  | pairKey
  | pairValue
  deriving DecidableEq

namespace Place

def isBlock : Place → Bool
  | document => true
  | blockEntry => true
  | flatEntry => true
  | blockMapping => true
  | _ => false

def endsBefore : Place → Option Token → Bool
  | _, none => true
  | document, some t =>
    match t with
    | .version _ _ => true
    | .tagHandle _ _ => true
    | .documentStart => true
    | .documentEnd => true
    | _ => false
  | blockEntry, some t => t = .entry || t = .blockEnd
  | flatEntry, some t => t = .entry || t = .key || t = .value || t = .blockEnd
  | blockMapping, some t => t = .key || t = .value || t = .blockEnd
  | flowKey, some t => t = .value || t = .comma || t = .flowMappingEnd
  | flowValue, some t => t = .comma || t = .flowMappingEnd
  | flowItem, some _ => false
  | pairKey, some t => t = .value || t = .comma || t = .flowSequenceEnd
  | pairValue, some t => t = .comma || t = .flowSequenceEnd

end Place

mutual
-- The node at a place, perhaps an empty one. An alias is replaced by the node that it names.
def readPlace? (place : Place) :
    (fuel : Nat) → Names → List Token → Option (Node × Names × List Token)
  | 0, _, _ => none
  | fuel + 1, names, ts =>
    if place.endsBefore ts.head? then some (.empty, names, ts) else readNode? place fuel names ts

def readNode? (place : Place) :
    (fuel : Nat) → Names → List Token → Option (Node × Names × List Token)
  | 0, _, _ => none
  | _ + 1, names, .alias name :: rest =>
    (names.anchors.lookup name).map fun node => (node, names, rest)
  | fuel + 1, names, ts => do
    let (p, ts) ← Properties.read? names {} ts
    let (node, names, rest) ←
      match ts with
      | .scalar style text :: rest => some (.scalar p.tag style text, names, rest)
      | .flowSequence :: rest =>
        (readFlowItems? true fuel names rest).map fun (items, r) => (.sequence p.tag items, r)
      | .flowMapping :: rest =>
        (readFlowFields? true fuel names rest).map fun (fields, r) => (.mapping p.tag fields, r)
      | .blockSequence :: rest =>
        if place.isBlock then
          (readEntries? fuel names rest).map fun (items, r) => (.sequence p.tag items, r)
        else none
      | .blockMapping :: rest =>
        if place.isBlock then
          (readFields? fuel names rest).map fun (fields, r) => (.mapping p.tag fields, r)
        else none
      | .entry :: rest =>
        if place = .blockMapping then
          (readFlatEntries? fuel names (.entry :: rest)).map fun (items, r) =>
            (.sequence p.tag items, r)
        else if p.isNone then none
        else some (.scalar p.tag .plain "", names, .entry :: rest)
      | rest => if p.isNone then none else some (.scalar p.tag .plain "", names, rest)
    some (node, names.define p.anchor node, rest)

def readEntries? : (fuel : Nat) → Names → List Token → Option (List Node × Names × List Token)
  | 0, _, _ => none
  | _ + 1, names, .blockEnd :: rest => some ([], names, rest)
  | fuel + 1, names, .entry :: rest => do
    let (item, names, rest) ← readPlace? .blockEntry fuel names rest
    let (items, names, rest) ← readEntries? fuel names rest
    some (item :: items, names, rest)
  | _ + 1, _, _ => none

-- The entries of a sequence that is not indented, which ends with the last of them.
def readFlatEntries? : (fuel : Nat) → Names → List Token → Option (List Node × Names × List Token)
  | 0, _, _ => none
  | fuel + 1, names, .entry :: rest => do
    let (item, names, rest) ← readPlace? .flatEntry fuel names rest
    let (items, names, rest) ← readFlatEntries? fuel names rest
    some (item :: items, names, rest)
  | _ + 1, names, rest => some ([], names, rest)

def readValue? (place : Place) :
    (fuel : Nat) → Names → List Token → Option (Node × Names × List Token)
  | 0, _, _ => none
  | fuel + 1, names, .value :: rest => readPlace? place fuel names rest
  | _ + 1, names, rest => some (.empty, names, rest)

def readFields? :
    (fuel : Nat) → Names → List Token → Option (List (Node × Node) × Names × List Token)
  | 0, _, _ => none
  | _ + 1, names, .blockEnd :: rest => some ([], names, rest)
  | fuel + 1, names, .key :: rest => do
    let (key, names, rest) ← readPlace? .blockMapping fuel names rest
    let (value, names, rest) ← readValue? .blockMapping fuel names rest
    let (fields, names, rest) ← readFields? fuel names rest
    some ((key, value) :: fields, names, rest)
  | _ + 1, _, _ => none

-- The items of a flow sequence; a pair of key and value is a mapping of its own.
def readFlowItems? (first : Bool) :
    (fuel : Nat) → Names → List Token → Option (List Node × Names × List Token)
  | 0, _, _ => none
  | _ + 1, names, .flowSequenceEnd :: rest => some ([], names, rest)
  | fuel + 1, names, ts => do
    let ts ←
      match first, ts with
      | true, ts => some ts
      | false, .comma :: rest => some rest
      | false, _ => none
    match ts with
    | .flowSequenceEnd :: rest => some ([], names, rest)
    | .key :: rest =>
      let (key, names, rest) ← readPlace? .pairKey fuel names rest
      let (value, names, rest) ← readValue? .pairValue fuel names rest
      let (items, names, rest) ← readFlowItems? false fuel names rest
      some (.mapping none [(key, value)] :: items, names, rest)
    | ts =>
      let (item, names, rest) ← readNode? .flowItem fuel names ts
      let (items, names, rest) ← readFlowItems? false fuel names rest
      some (item :: items, names, rest)

-- The fields of a flow mapping; a key may be without a value.
def readFlowFields? (first : Bool) :
    (fuel : Nat) → Names → List Token → Option (List (Node × Node) × Names × List Token)
  | 0, _, _ => none
  | _ + 1, names, .flowMappingEnd :: rest => some ([], names, rest)
  | fuel + 1, names, ts => do
    let ts ←
      match first, ts with
      | true, ts => some ts
      | false, .comma :: rest => some rest
      | false, _ => none
    match ts with
    | .flowMappingEnd :: rest => some ([], names, rest)
    | .key :: rest =>
      let (key, names, rest) ← readPlace? .flowKey fuel names rest
      let (value, names, rest) ← readValue? .flowValue fuel names rest
      let (fields, names, rest) ← readFlowFields? false fuel names rest
      some ((key, value) :: fields, names, rest)
    | ts =>
      let (key, names, rest) ← readNode? .flowKey fuel names ts
      let (fields, names, rest) ← readFlowFields? false fuel names rest
      some ((key, .empty) :: fields, names, rest)
end

-- The directives before a document; whether there are any, and what handles they define.
def readDirectives? : (version : Bool) → (handles : List (String × String)) → List Token →
    Option (List (String × String) × List Token)
  | version, handles, .version major minor :: rest =>
    if version || major ≠ 1 || (minor ≠ 1 && minor ≠ 2) then none
    else readDirectives? true handles rest
  | version, handles, .tagHandle handle meaning :: rest =>
    if (handles.lookup handle).isSome then none
    else readDirectives? version ((handle, meaning) :: handles) rest
  | _, handles, rest => some (handles, rest)

def dropDocumentEnds (ts : List Token) : List Token := ts.dropWhile (· = .documentEnd)

-- The only document of a list of tokens; `some none` if there is no document.
def readStream? (ts : List Token) : Option (Option Node) := do
  let fuel := 2 * ts.length + 4
  let (handles, rest) ← readDirectives? false [] ts
  let explicit := rest.length < ts.length
  match rest with
  | [] => if explicit then none else some none
  | .documentStart :: rest =>
    let (node, _, rest) ← readPlace? .document fuel { handles } rest
    if (dropDocumentEnds rest).isEmpty then some (some node) else none
  | rest =>
    if explicit then none
    else
      let (node, _, rest) ← readPlace? .document fuel { handles } rest
      if (dropDocumentEnds rest).isEmpty then some (some node) else none

def Node.ofText? (text : String) : Option (Option Node) := (tokens? text).bind readStream?

end JsonSchema.Yaml

import JsonSchema.Expansion
import JsonSchema.Json.Parser
import JsonSchema.Yaml.Node
import JsonSchema.Yaml.Writer

-- Fields that are missing have their defaults, fields of other names do not matter, and no field
-- may be given twice. In JSON a record may also be the list of its first fields. The fields of
-- other names need a form but no value, so from a text in JSON the settings are read by its form.

namespace JsonSchema

structure Settings where
  version : String := "1.0"
  resolve : Options := {}
  deriving DecidableEq, Inhabited

namespace SiblingPolicy

def name : SiblingPolicy → String
  | merge => "merge"
  | ignore => "ignore"
  | reject => "reject"

def ofName? (s : String) : Option SiblingPolicy := [merge, ignore, reject].find? (·.name = s)

-- A policy is written by its name, or as an object of that one field.
def ofJson? : Json → Option SiblingPolicy
  | .string s => ofName? s
  | .object [(s, .null)] => ofName? s
  | _ => none

end SiblingPolicy

structure RecordView (Value : Type) where
  -- The fields of a record, under these names if it is a list.
  fields? : List String → Value → Option (List (String × Value))
  text?   : Value → Option String
  flag?   : Value → Option Bool
  policy? : Value → Option SiblingPolicy

namespace RecordView

variable {Value : Type} (view : RecordView Value)

-- The value of a field that is given at most once, or its default.
def field? {α : Type} (fields : List (String × Value)) (name : String) (read? : Value → Option α)
    (default : α) : Option α :=
  match fields.filter (·.1 = name) with
  | [] => some default
  | [(_, value)] => read? value
  | _ => none

def options? (value : Value) : Option Options := do
  let fields ← view.fields? ["ref_siblings", "combine_all_of", "relocate_array_required"] value
  let default : Options := {}
  some
    { siblings := ← field? fields "ref_siblings" view.policy? default.siblings
      combineAllOf := ← field? fields "combine_all_of" view.flag? default.combineAllOf
      relocateArrayRequired :=
        ← field? fields "relocate_array_required" view.flag? default.relocateArrayRequired }

def settings? (value : Value) : Option Settings := do
  let fields ← view.fields? ["version", "resolve"] value
  let default : Settings := {}
  some
    { version := ← field? fields "version" view.text? default.version
      resolve := ← field? fields "resolve" view.options? default.resolve }

end RecordView

namespace Json

def recordFields? (names : List String) : Json → Option Fields
  | object fields => some fields
  | array items => if items.length ≤ names.length then some (names.zip items) else none
  | _ => none

def records : RecordView Json where
  fields? := recordFields?
  text? := asString?
  flag? := asBool?
  policy? := SiblingPolicy.ofJson?

namespace Form

def recordFields? (names : List String) : Form → Option (List (String × Form))
  | object fields => fields.mapM fun (key, form) => (glyphsText? [] key).map (·, form)
  | array items => if items.length ≤ names.length then some (names.zip items) else none
  | _ => none

def records : RecordView Form where
  fields? := recordFields?
  text? := fun form => (form.value? depthLimit).bind asString?
  flag? := fun form => (form.value? depthLimit).bind asBool?
  policy? := fun form => (form.value? depthLimit).bind SiblingPolicy.ofJson?

end Form

end Json

namespace Yaml

def field? : Node × Node → Option (String × Node)
  | (.scalar _ _ key, value) => some (key, value)
  | _ => none

-- The fields of a mapping; what is empty has none.
def recordFields? : Node → Option (List (String × Node))
  | .mapping _ fields => fields.mapM field?
  | .scalar _ .plain "" => some []
  | _ => none

def text? : Node → Option String
  | .scalar _ _ text => some text
  | _ => none

def flag? : Node → Option Bool
  | .scalar tag style text =>
    if style = .plain || (style = .literal && tag = some "tag:yaml.org,2002:bool") then
      if trueWords.contains text then some true
      else if falseWords.contains text then some false
      else none
    else none
  | _ => none

def ownTag? (tag : Option String) : Option String :=
  match tag.map String.toList with
  | some ('!' :: name) => some (String.ofList name)
  | _ => none

-- A policy is written by its name, or by nothing with the name as a tag.
def policy? : Node → Option SiblingPolicy
  | .scalar tag style text =>
    match ownTag? tag with
    | some name =>
      if style = .plain && (text.isEmpty || nullWords.contains text) then SiblingPolicy.ofName? name
      else none
    | none => SiblingPolicy.ofName? text
  | _ => none

def records : RecordView Node where
  fields? := fun _ => recordFields?
  text? := text?
  flag? := flag?
  policy? := policy?

end Yaml

namespace Settings

def ofJson? (j : Json) : Option Settings := Json.records.settings? j

def ofJsonText? (text : String) : Option Settings :=
  (Json.Form.ofText? text).bind Json.Form.records.settings?

def ofYamlText? (text : String) : Option Settings :=
  (Yaml.Node.ofText? text).bind fun document =>
    Yaml.records.settings? (document.getD Yaml.Node.empty)

end Settings

end JsonSchema

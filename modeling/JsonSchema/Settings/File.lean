import JsonSchema.Json.Printer
import JsonSchema.Settings.Reader

-- A file is in JSON if its name ends in `.json`, in letters of either case, and in YAML otherwise.

namespace JsonSchema

inductive LoadError where
  | notFound
  | json
  | yaml
  deriving DecidableEq, Inhabited

def LoadError.notFoundMessage : String := "I/O error: No such file or directory (os error 2)"

namespace Settings

def isJson (suffix : String) : Bool := suffix.toList.map Char.toLower = "json".toList

def load (suffix : String) (text : Option String) : Except LoadError Settings :=
  match text with
  | none => .error .notFound
  | some text =>
    if isJson suffix then (ofJsonText? text).elim (.error .json) .ok
    else (ofYamlText? text).elim (.error .yaml) .ok

def toJson (s : Settings) : Json :=
  .object
    [("version", .string s.version),
      ("resolve", .object
        [("ref_siblings", .string s.resolve.siblings.name),
          ("combine_all_of", .bool s.resolve.combineAllOf),
          ("relocate_array_required", .bool s.resolve.relocateArrayRequired)])]

def flagText (b : Bool) : String := if b then "true" else "false"

def toYamlText (s : Settings) : String :=
  "version: " ++ Yaml.writeString s.version ++ "\n" ++
    "resolve:\n" ++
    "  ref_siblings: " ++ s.resolve.siblings.name ++ "\n" ++
    "  combine_all_of: " ++ flagText s.resolve.combineAllOf ++ "\n" ++
    "  relocate_array_required: " ++ flagText s.resolve.relocateArrayRequired ++ "\n"

def fileText (suffix : String) (s : Settings) : String :=
  if isJson suffix then s.toJson.renderIndented 0 else s.toYamlText

end Settings

end JsonSchema

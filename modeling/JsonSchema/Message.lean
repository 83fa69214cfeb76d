import JsonSchema.Compiled
import JsonSchema.Unicode.Property
import JsonSchema.Validator.Basic

namespace JsonSchema

namespace Text

def hex (n : Nat) : List Char := Nat.toDigits 16 n

-- What is shown as it is: graphic characters and the space, unless they extend another one.
def printable : CharSet :=
  .diff (.union Unicode.graphic (.single ' ')) Unicode.graphemeExtend

def needsCode (c : Char) : Bool :=
  if 32 ≤ c.toNat && c.toNat < 127 then false else !printable.contains c

def quotedChar (c : Char) : List Char :=
  if c = '"' then ['\\', '"']
  else if c = '\\' then ['\\', '\\']
  else if c = '\t' then ['\\', 't']
  else if c = '\r' then ['\\', 'r']
  else if c = '\n' then ['\\', 'n']
  else if c.toNat = 0 then ['\\', '0']
  else if needsCode c then ['\\', 'u', '{'] ++ hex c.toNat ++ ['}']
  else [c]

def quoted (s : String) : String :=
  String.ofList ('"' :: s.toList.flatMap quotedChar ++ ['"'])

def quotedList (texts : List String) : String :=
  "[" ++ ", ".intercalate (texts.map quoted) ++ "]"

end Text

def Pointer.malformedMessage (text : String) : String :=
  "invalid JSON pointer: " ++ Text.quoted text

def SiblingError.message (e : SiblingError) : String :=
  "$ref at '" ++ e.place.text ++ "' has sibling keywords: " ++ Text.quotedList e.keywords

def CompileError.message : CompileError → String
  | notObject found => "schema must be an object, found " ++ found
  | siblings e => e.message

def Validator.text (v : Validator) : String :=
  "Validator \x7b label: " ++ Text.quoted v.label ++ ", null: " ++
    (if v.isNull then "true" else "false") ++ ", .. \x7d"

end JsonSchema

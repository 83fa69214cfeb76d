import JsonSchema.Pointer.Basic

namespace JsonSchema.Pointer

def escapeChar (c : Char) : List Char :=
  if c = '~' then ['~', '0']
  else if c = '/' then ['~', '1']
  else [c]

def escape (token : List Char) : List Char := token.flatMap escapeChar

-- Refuses a tilde that is followed by neither `0` nor `1`.
def unescape? : List Char → Option (List Char)
  | [] => some []
  | '~' :: '0' :: rest => (unescape? rest).map ('~' :: ·)
  | '~' :: '1' :: rest => (unescape? rest).map ('/' :: ·)
  | c :: rest => if c = '~' then none else (unescape? rest).map (c :: ·)

def splitSlash : List Char → List (List Char)
  | [] => [[]]
  | c :: rest =>
    if c = '/' then [] :: splitSlash rest
    else
      match splitSlash rest with
      | [] => [[c]]
      | part :: parts => (c :: part) :: parts

def dropNumberSign : List Char → List Char
  | '#' :: rest => rest
  | cs => cs

def parseChars? (cs : List Char) : Option Pointer :=
  match dropNumberSign cs with
  | [] => some root
  | '/' :: rest => ((splitSlash rest).mapM unescape?).map fun parts => ⟨parts.map String.ofList⟩
  | _ => none

-- The pointer that a text in plain or fragment form holds.
def parse? (text : String) : Option Pointer := parseChars? text.toList

def textChars (p : Pointer) : List Char :=
  p.tokens.flatMap fun token => '/' :: escape token.toList

def text (p : Pointer) : String := String.ofList p.textChars

-- The fragment form, which references use.
def fragment (p : Pointer) : String := String.ofList ('#' :: p.textChars)

def escapeToken (token : String) : String := String.ofList (escape token.toList)

def unescapeToken? (token : String) : Option String :=
  (unescape? token.toList).map String.ofList

end JsonSchema.Pointer

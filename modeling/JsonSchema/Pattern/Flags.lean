import JsonSchema.Unicode.Case
import JsonSchema.Unicode.Property

namespace JsonSchema.Pattern

structure Flags where
  ignoreCase : Bool := false
  multiLine  : Bool := false
  dotAll     : Bool := false
  -- Whether lines may also end with a carriage return.
  anyLineEnd : Bool := false
  unicode    : Bool := true
  verbose    : Bool := false

namespace Flags

-- Sets the flag of a letter. Which end of a repetition is preferred makes no difference here.
def set (f : Flags) (letter : Char) (on : Bool) : Flags :=
  match letter with
  | 'i' => { f with ignoreCase := on }
  | 'm' => { f with multiLine := on }
  | 's' => { f with dotAll := on }
  | 'R' => { f with anyLineEnd := on }
  | 'u' => { f with unicode := on }
  | 'x' => { f with verbose := on }
  | _ => f

-- The letters of flags and the sign before those to be cleared.
def letters : List Char := "imsRUux-".toList

-- The flags after those of a text are set and, behind a hyphen, cleared.
def update? (f : Flags) (text : List Char) : Option Flags :=
  if text.all letters.contains && decide text.Nodup && text.getLast? != some '-' then
    let (on, off) := text.span (· != '-')
    some (off.foldl (·.set · false) (on.foldl (·.set · true) f))
  else
    none

end Flags

def isSpace (c : Char) : Bool := Unicode.whiteSpace.contains c

-- What follows blanks and comments; a comment ends with its line.
def skipBlanks (inComment : Bool) : List Char → List Char
  | [] => []
  | c :: rest =>
    if inComment then skipBlanks (c != '\n') rest
    else if isSpace c then skipBlanks false rest
    else if c = '#' then skipBlanks true rest
    else c :: rest

def Flags.skip (f : Flags) (cs : List Char) : List Char :=
  if f.verbose then skipBlanks false cs else cs

-- The characters that a set stands for: those of another case are in it if case is ignored, and it
-- may be negated after that. Without Unicode it has to consist of ASCII.
def Flags.meant? (f : Flags) (negated : Bool) (s : CharSet) : Option CharSet :=
  let s :=
    if !f.ignoreCase then s else if f.unicode then Unicode.closeCase s else Unicode.closeAsciiCase s
  let s := if negated then s.compl else s
  if f.unicode || s.isAscii then some s else none

end JsonSchema.Pattern

import JsonSchema.Text.CharSet

namespace JsonSchema

-- A place between two characters of a text. There is none before the first place and after the last
-- one.
structure Gap where
  before? : Option Char
  after?  : Option Char

inductive WordEdge where
  | boundary
  | notBoundary
  | start
  | stop
  -- After no character of a word.
  | openStart
  -- Before no character of a word.
  | openStop
  deriving DecidableEq, Inhabited

inductive Assertion where
  | textStart
  | textEnd
  | lineStart
  | lineEnd
  -- A line start where lines end with a line feed, a carriage return or both.
  | anyLineStart
  | anyLineEnd
  | word (edge : WordEdge) (chars : CharSet)
  deriving DecidableEq, Inhabited

namespace Assertion

def lineFeed : Char := '\n'

def carriageReturn : Char := '\r'

def edgeHolds (edge : WordEdge) (before after : Bool) : Bool :=
  match edge with
  | .boundary => before != after
  | .notBoundary => before == after
  | .start => !before && after
  | .stop => before && !after
  | .openStart => !before
  | .openStop => !after

def holdsAt (g : Gap) : Assertion → Bool
  | textStart => g.before?.isNone
  | textEnd => g.after?.isNone
  | lineStart => g.before?.all (· = lineFeed)
  | lineEnd => g.after?.all (· = lineFeed)
  | anyLineStart =>
    g.before?.all fun c => c = lineFeed || (c = carriageReturn && g.after? != some lineFeed)
  | anyLineEnd =>
    g.after?.all fun c => c = carriageReturn || (c = lineFeed && g.before? != some carriageReturn)
  | word edge chars => edgeHolds edge (g.before?.any chars.contains) (g.after?.any chars.contains)

end Assertion

inductive Pattern where
  | empty
  | char (chars : CharSet)
  | assert (assertion : Assertion)
  | seq (first second : Pattern)
  | either (left right : Pattern)
  -- So many copies and up to so many `more` of them, or any number of more.
  | copies (p : Pattern) (least : Nat) (more : Option Nat)
  deriving DecidableEq, Inhabited

namespace Pattern

def andThen : Pattern → Pattern → Pattern
  | empty, q => q
  | p, empty => p
  | p, q => seq p q

def sequence (ps : List Pattern) : Pattern := ps.foldr andThen empty

def never : Pattern := char CharSet.empty

def anyOf : List Pattern → Pattern
  | [] => never
  | [p] => p
  | p :: ps => either p (anyOf ps)

def single (c : Char) : Pattern := char (.single c)

def literal (s : String) : Pattern := sequence (s.toList.map single)

def anyChar : Pattern := char .all

def exactly (n : Nat) (p : Pattern) : Pattern := copies p n (some 0)

def between (low high : Nat) (p : Pattern) : Pattern := copies p low (some (high - low))

def optional (p : Pattern) : Pattern := copies p 0 (some 1)

def many (p : Pattern) : Pattern := copies p 0 none

def many1 (p : Pattern) : Pattern := copies p 1 none

def nullable (g : Gap) : Pattern → Bool
  | empty => true
  | char _ => false
  | assert a => a.holdsAt g
  | seq p q => p.nullable g && q.nullable g
  | either p q => p.nullable g || q.nullable g
  | copies p least _ => least = 0 || p.nullable g

-- How many copies may follow the copy that reads the next character. If copies may be empty here,
-- any number of those that are due may be so before it.
def copiesLeft (emptyHere : Bool) : Nat → Option Nat → List (Nat × Option Nat)
  | 0, none => [(0, none)]
  | 0, some 0 => []
  | 0, some (more + 1) => [(0, some more)]
  | least + 1, more =>
    (least, more) :: if emptyHere then copiesLeft emptyHere least more else []

-- The patterns of which one has to cover what is left of a text after its first character.
def residuals (before? : Option Char) (c : Char) : Pattern → List Pattern
  | empty => []
  | char chars => if chars.contains c then [empty] else []
  | assert _ => []
  | seq p q =>
    let first := (p.residuals before? c).map (andThen · q)
    if p.nullable ⟨before?, some c⟩ then first ++ q.residuals before? c else first
  | either p q => p.residuals before? c ++ q.residuals before? c
  | copies p least more =>
    let left := copiesLeft (p.nullable ⟨before?, some c⟩) least more
    (p.residuals before? c).flatMap fun r =>
      left.map fun (least, more) => andThen r (copies p least more)

-- Whether the first pattern covers whatever the second one covers, as far as their shapes show.
def subsumes : Pattern → Pattern → Bool
  | seq p q, seq p' q' => p.subsumes p' && q.subsumes q'
  | copies p least more, copies p' least' more' =>
    least ≤ least' && more.all (fun n => more'.any fun n' => least' + n' ≤ least + n)
      && p.subsumes p'
  | p, q => p == q

-- Adds patterns to others, but none that one of the others makes needless.
def addAll (kept : List Pattern) : List Pattern → List Pattern
  | [] => kept
  | p :: ps =>
    if kept.any (·.subsumes p) then addAll kept ps
    else addAll (p :: kept.filter (!p.subsumes ·)) ps

def anyCovers (ps : List Pattern) (before? : Option Char) : List Char → Bool
  | [] => ps.any (nullable ⟨before?, none⟩)
  | c :: rest => anyCovers (addAll [] (ps.flatMap (residuals before? c))) (some c) rest

def covers (p : Pattern) (s : String) : Bool := anyCovers [p] none s.toList

def occursIn (p : Pattern) (s : String) : Bool :=
  (sequence [many anyChar, p, many anyChar]).covers s

end Pattern

end JsonSchema

import JsonSchema.Pattern.Token

namespace JsonSchema.Pattern

namespace Part

def isEmptyOnly : Pattern → Bool
  | .empty => true
  | .assert _ => true
  | .char _ => false
  | .seq p q => isEmptyOnly p && isEmptyOnly q
  | .either p q => isEmptyOnly p && isEmptyOnly q
  | .copies p least more => (least = 0 && more = some 0) || isEmptyOnly p

def isOptional : Pattern → Bool
  | .empty => true
  | .assert _ => false
  | .char _ => false
  | .seq p q => isOptional p && isOptional q
  | .either p q => isOptional p || isOptional q
  | .copies p least _ => least = 0 || isOptional p

-- The copies of a pattern. If it covers the empty text anywhere, none of them is due.
def copies (p : Pattern) (least : Nat) (more : Option Nat) : Pattern :=
  if isOptional p then .copies p 0 (more.map (least + ·)) else .copies p least more

def times (p : Part) (least : Nat) (more : Option Nat) : Part :=
  { pattern := copies p.pattern least more,
    depth := p.depth + 1,
    cost :=
      if isEmptyOnly p.pattern then Cost.copies p.cost (min least 1) (some (min (more.getD 1) 1))
      else Cost.copies p.cost least more }

def join : List Part → Part
  | [] => { pattern := .empty, cost := 0 }
  | [p] => p
  | ps =>
    { pattern := sequence (ps.map (·.pattern)),
      depth := (ps.map (·.depth)).foldl max 0 + 1,
      cost := (ps.map (·.cost)).foldl (· + ·) 0 }

def choose : List Part → Part
  | [p] => p
  | ps =>
    { pattern := anyOf (ps.map (·.pattern)),
      depth := (ps.map (·.depth)).foldl max 0 + 1,
      cost := (ps.map (·.cost)).foldl (· + ·) 0 + Cost.choice ps.length }

def group (captures : Bool) (p : Part) : Part :=
  { p with depth := p.depth + 1, cost := p.cost + if captures then Cost.capture else 0 }

end Part

-- A group that is open: its finished alternatives and the parts of the current one, each with the
-- last first. A change of flags stands among the parts as `none`.
structure OpenGroup where
  captures     : Bool := false
  alternatives : List Part := []
  parts        : List (Option Part) := []

namespace OpenGroup

def branch (g : OpenGroup) : Part :=
  Part.join (g.parts.reverse.map fun p => p.getD { pattern := .empty, cost := 0 })

def push (p : Option Part) (g : OpenGroup) : OpenGroup := { g with parts := p :: g.parts }

def bar (g : OpenGroup) : OpenGroup :=
  { g with alternatives := g.branch :: g.alternatives, parts := [] }

def close (g : OpenGroup) : Part := Part.choose (g.branch :: g.alternatives).reverse

end OpenGroup

def assemble? (g : OpenGroup) (outer : List OpenGroup) : List Token → Option Part
  | [] => if outer.isEmpty then some g.close else none
  | .part p :: rest => assemble? (g.push (some p)) outer rest
  | .directive :: rest => assemble? (g.push none) outer rest
  | .opening captures :: rest => assemble? { captures } (g :: outer) rest
  | .closing :: rest =>
    match outer with
    | [] => none
    | around :: outer => assemble? (around.push (some (g.close.group g.captures))) outer rest
  | .bar :: rest => assemble? g.bar outer rest
  | .times least more :: rest =>
    match g.parts with
    | some p :: parts => assemble? { g with parts := some (p.times least more) :: parts } outer rest
    | _ => none

def depthLimit : Nat := 250

def costLimit : Nat := 10485760

def parse? (text : String) : Option Pattern := do
  let cs := text.toList
  let part ← assemble? {} [] (← Token.scan? (cs.length + 1) {} [] [] cs)
  if part.depth ≤ depthLimit && part.cost ≤ costLimit then some part.pattern else none

-- The pattern that denotes the whole of a text, where the text holds another one.
def parseWhole? (text : String) : Option Pattern := parse? ("^(?:" ++ text ++ ")$")

end JsonSchema.Pattern

import JsonSchema.Json.Parser
import JsonSchema.Yaml.Cursor

namespace JsonSchema.Yaml

inductive ScalarStyle where
  | plain
  | quoted
  | literal
  | folded
  deriving DecidableEq, Inhabited

-- The blanks and breaks between two parts of a scalar.
structure Gap where
  broken : Bool := false
  blanks : List Char := []
  first  : List Char := []
  others : List Char := []

-- A single break is folded to a space.
def Gap.text (g : Gap) : List Char :=
  if g.broken then
    if g.first = ['\n'] then
      if g.others.isEmpty then [' '] else g.others
    else g.first ++ g.others
  else g.blanks

-- Gathers blanks and breaks; a tab left of the column `indent` after a break is refused.
def readGap? (indent : Nat) : (fuel : Nat) → Gap → Cursor → Option (Gap × Cursor)
  | 0, _, _ => none
  | fuel + 1, g, c =>
    match c.peek? 0 with
    | none => some (g, c)
    | some char =>
      if isBlank char then
        if g.broken then
          if char = '\t' && c.column < indent then none else readGap? indent fuel g c.next
        else readGap? indent fuel { g with blanks := g.blanks ++ [char] } c.next
      else if isBreak char then
        let (text, c) := c.readBreak
        if g.broken then readGap? indent fuel { g with others := g.others ++ text } c
        else readGap? indent fuel { g with broken := true, blanks := [], first := text } c
      else some (g, c)

def hexValue? (cs : List Char) : Option Nat :=
  (cs.mapM Json.hexValue?).map fun ds => ds.foldl (fun n d => 16 * n + d) 0

def readCode? (digits : Nat) (c : Cursor) : Option (Char × Cursor) :=
  let ds := c.rest.take digits
  if ds.length = digits then
    match hexValue? ds with
    | some n => if n.isValidChar then some (Char.ofNat n, c.skip digits) else none
    | none => none
  else none

def readEscape? (c : Cursor) : Option (Char × Cursor) :=
  match c.peek? 0 with
  | none => none
  | some char =>
    let simple (n : Nat) := some (Char.ofNat n, c.next)
    if char = '0' then simple 0
    else if char = 'a' then simple 7
    else if char = 'b' then simple 8
    else if char = 't' || char = '\t' then simple 9
    else if char = 'n' then simple 10
    else if char = 'v' then simple 11
    else if char = 'f' then simple 12
    else if char = 'r' then simple 13
    else if char = 'e' then simple 27
    else if char = ' ' || char = '"' || char = '/' || char = '\\' || char.toNat = 39 then
      some (char, c.next)
    else if char = 'N' then simple 0x85
    else if char = '_' then simple 0xA0
    else if char = 'L' then simple 0x2028
    else if char = 'P' then simple 0x2029
    else if char = 'x' then readCode? 2 c.next
    else if char = 'u' then readCode? 4 c.next
    else if char = 'U' then readCode? 8 c.next
    else none

def readQuoted? (quote : Char) :
    (fuel : Nat) → (acc : List Char) → Cursor → Option (List Char × Cursor)
  | 0, _, _ => none
  | fuel + 1, acc, c =>
    if c.atDocumentMark then none
    else
      match c.peek? 0 with
      | none => none
      | some char =>
        if char = quote then
          if quote ≠ '"' && c.isAt 1 quote then readQuoted? quote fuel (quote :: acc) (c.skip 2)
          else some (acc.reverse, c.next)
        else if quote = '"' && char = '\\' then
          if c.looksAt 1 isBreak then
            match readGap? 0 fuel { broken := true } c.next.readBreak.2 with
            | some (g, c) => readQuoted? quote fuel (g.text.reverse ++ acc) c
            | none => none
          else
            match readEscape? c.next with
            | some (char, c) => readQuoted? quote fuel (char :: acc) c
            | none => none
        else if isBlank char || isBreak char then
          match readGap? 0 fuel {} c with
          | some (g, c) => readQuoted? quote fuel (g.text.reverse ++ acc) c
          | none => none
        else readQuoted? quote fuel (char :: acc) c.next

def isFlowMark (c : Char) : Bool := c = ',' || c = '[' || c = ']' || c = '{' || c = '}'

def endsPlain (inFlow : Bool) (c : Cursor) : Bool :=
  (c.isAt 0 ':' && c.endsWordAt 1) || (inFlow && c.looksAt 0 isFlowMark)

-- A colon that belongs to no plain scalar of a flow collection, and ends none.
def strayColon (inFlow : Bool) (c : Cursor) : Bool :=
  inFlow && c.isAt 0 ':' && c.looksAt 1 fun char => isFlowMark char || char = '?'

-- A plain scalar, and whether it ends after a break. Lines that continue it start at the column
-- `indent` or right of it. `gap` is what was passed since the last character of the scalar.
def readPlain? (inFlow : Bool) (indent : Nat) :
    (fuel : Nat) → (acc : List Char) → (gap : Gap) → Cursor → Option (List Char × Bool × Cursor)
  | 0, _, _, _ => none
  | fuel + 1, acc, gap, c =>
    let done := some (acc.reverse, gap.broken, c)
    match c.peek? 0 with
    | none => done
    | some char =>
      let fresh := gap.broken || !gap.blanks.isEmpty || acc.isEmpty
      if fresh && (c.atDocumentMark || char = '#') then done
      else if isBlank char || isBreak char then
        match readGap? indent fuel {} c with
        | none => none
        | some (g, c') =>
          if !inFlow && c'.column < indent then some (acc.reverse, g.broken, c')
          else if c'.atEnd then some (acc.reverse, g.broken, c')
          else readPlain? inFlow indent fuel acc g c'
      else if strayColon inFlow c then none
      else if endsPlain inFlow c then done
      else readPlain? inFlow indent fuel (char :: (gap.text.reverse ++ acc)) {} c.next

inductive Chomping where
  | strip
  | clip
  | keep
  deriving DecidableEq

def readBlockHeader? (c : Cursor) : Option (Chomping × Option Nat × Cursor) :=
  let chomping? (c : Cursor) : Option Chomping :=
    if c.isAt 0 '+' then some .keep else if c.isAt 0 '-' then some .strip else none
  let digit? (c : Cursor) : Option Nat :=
    match c.peek? 0 with
    | some char => if char.isDigit then some (char.toNat - '0'.toNat) else none
    | none => none
  match chomping? c with
  | some chomping =>
    match digit? c.next with
    | some 0 => none
    | some n => some (chomping, some n, c.next.next)
    | none => some (chomping, none, c.next)
  | none =>
    match digit? c with
    | some 0 => none
    | some n =>
      match chomping? c.next with
      | some chomping => some (chomping, some n, c.next.next)
      | none => some (.clip, some n, c.next)
    | none => some (.clip, none, c)

def endLine? (c : Cursor) : Option Cursor :=
  let c := c.skipWhile isBlank
  let c := if c.isAt 0 '#' then c.skipWhile fun _ => true else c
  if c.atLineEnd then some c.readBreak.2 else none

-- Passes indentation and empty lines. If the indentation of the block is not known yet, all spaces
-- count as such, and the widest line is given.
def readEmptyLines? (indent : Option Nat) :
    (fuel : Nat) → (widest : Nat) → (breaks : List Char) → Cursor →
      Option (Nat × List Char × Cursor)
  | 0, _, _, _ => none
  | fuel + 1, widest, breaks, c =>
    let within (c : Cursor) : Bool :=
      match indent with
      | some n => c.column < n
      | none => true
    match c.peek? 0 with
    | some char =>
      if char = ' ' && within c then
        readEmptyLines? indent fuel (max widest c.next.column) breaks c.next
      else if char = '\t' && within c then none
      else if isBreak char then
        let (text, c) := c.readBreak
        readEmptyLines? indent fuel widest (breaks ++ text) c
      else some (widest, breaks, c)
    | none => some (widest, breaks, c)

-- The lines of a block: `last` is the break before the next line, `breaks` are those of empty
-- lines.
def readLines? (literal : Bool) (indent : Nat) :
    (fuel : Nat) → (text : List Char) → (blankBefore : Bool) → (last breaks : List Char) → Cursor →
      Option (List Char × List Char × List Char × Cursor)
  | 0, _, _, _, _, _ => none
  | fuel + 1, text, blankBefore, last, breaks, c =>
    if c.column = indent && !c.atEnd then
      let blank := c.looksAt 0 isBlank
      let join :=
        if !literal && last = ['\n'] && !blankBefore && !blank then
          if breaks.isEmpty then [' '] else []
        else last
      let (line, c) := c.takeWhile fun _ => true
      let (last, c) := c.readBreak
      match readEmptyLines? (some indent) (c.rest.length + 1) 0 [] c with
      | some (_, more, c) =>
        readLines? literal indent fuel (text ++ join ++ breaks ++ line) blank last more c
      | none => none
    else some (text, last, breaks, c)

-- A block after its sign; `parent` is the indentation of the collection that holds it.
def readBlock? (literal : Bool) (parent : Int) (c : Cursor) : Option (List Char × Cursor) := do
  let (chomping, increment, c) ← readBlockHeader? c
  let c ← endLine? c
  let fuel := c.rest.length + 1
  let given := increment.map fun n => (max parent 0).toNat + n
  let (widest, breaks, c) ← readEmptyLines? given fuel 0 [] c
  let indent := given.getD (max widest (max (parent + 1).toNat 1))
  let (text, last, breaks, c) ← readLines? literal indent fuel [] false [] breaks c
  let tail :=
    match chomping with
    | .strip => []
    | .clip => last
    | .keep => last ++ breaks
  some (text ++ tail, c)

end JsonSchema.Yaml

import JsonSchema.Pattern.Bracket
import JsonSchema.Pattern.Cost

namespace JsonSchema.Pattern

-- A part of a pattern with the number of levels that its text is nested in, and the bytes that a
-- machine for it takes.
structure Part where
  pattern : Pattern
  depth   : Nat := 0
  cost    : Nat
  deriving Inhabited

inductive Token where
  | part (p : Part)
  | directive
  -- The beginning of a group, which may be one to be remembered.
  | opening (captures : Bool)
  | closing
  | bar
  -- So many copies of the part before, and up to so many or any number of more.
  | times (least : Nat) (more : Option Nat)
  deriving Inhabited

namespace Token

def ofSet (s : CharSet) (depth : Nat) : Token :=
  let cost :=
    match s.ranges with
    | [(low, high)] => if low = high then Cost.char (Char.ofNat low) else Cost.set s
    | _ => Cost.set s
  .part { pattern := .char s, depth, cost }

def ofAssertion (a : Assertion) : Token := .part { pattern := .assert a, cost := Cost.assertion }

def ofChar (f : Flags) (c : Char) : Token :=
  ofSet ((f.meant? false (.single c)).getD (.single c)) 0

-- What a dot stands for. Without Unicode it would stand for single bytes.
def dot? (f : Flags) : Option Token :=
  if !f.unicode then none
  else if f.dotAll then some (ofSet .all 0)
  else if f.anyLineEnd then some (ofSet (.diff .all ⟨[(10, 10), (13, 13)]⟩) 0)
  else some (ofSet (.diff .all (.single '\n')) 0)

def lineStart (f : Flags) : Assertion :=
  if !f.multiLine then .textStart else if f.anyLineEnd then .anyLineStart else .lineStart

def lineEnd (f : Flags) : Assertion :=
  if !f.multiLine then .textEnd else if f.anyLineEnd then .anyLineEnd else .lineEnd

def ofEscape (f : Flags) : Escape → Token
  | .char c => ofChar f c
  | .set chars => ofSet chars 0
  | .place a => ofAssertion a

def countLimit : Nat := 4294967295

-- The digits up to the first other character; behind each of them blanks are skipped where they
-- have no meaning.
def readDigits (f : Flags) : (fuel : Nat) → List Char → List Char × List Char
  | fuel + 1, c :: rest =>
    if c.isDigit then
      let (digits, rest) := readDigits f fuel (f.skip rest)
      (c :: digits, rest)
    else
      ([], c :: rest)
  | _, cs => ([], cs)

def readCount? (f : Flags) (cs : List Char) : Option (Nat × List Char) :=
  let cs := cs.dropWhile isSpace
  let (digits, rest) := readDigits f cs.length cs
  let n := digits.foldl (fun n c => 10 * n + (c.toNat - 48)) 0
  if digits.isEmpty || n > countLimit then none
  else some (n, f.skip (rest.dropWhile isSpace))

-- The counts of a repetition after its opening brace: one, the least one, or the least and the
-- greatest one.
def readTimes? (f : Flags) (cs : List Char) : Option ((Nat × Option Nat) × List Char) := do
  let (least, rest) ← readCount? f (f.skip cs)
  match rest with
  | '}' :: rest => some ((least, some 0), f.skip rest)
  | ',' :: rest =>
    match f.skip rest with
    | '}' :: rest => some ((least, none), f.skip rest)
    | rest =>
      let (most, rest) ← readCount? f rest
      match rest with
      | '}' :: rest =>
        if least ≤ most then some ((least, some (most - least)), f.skip rest) else none
      | _ => none
  | _ => none

-- What follows the sign that prefers few copies; which match is preferred makes no difference.
def skipLazy : List Char → List Char
  | '?' :: rest => rest
  | cs => cs

inductive GroupHead where
  | directive (f : Flags)
  | group (f : Flags) (captures : Bool)
  | named (name : List Char)

def isNameChar (first : Bool) (c : Char) : Bool :=
  c = '_' || if first then Unicode.alphabetic.contains c
    else c = '.' || c = '[' || c = ']' || Unicode.alphanumeric.contains c

def readName? (cs : List Char) : Option (GroupHead × List Char) :=
  let (name, rest) := cs.span (· != '>')
  match name, rest with
  | c :: cs, '>' :: rest =>
    if isNameChar true c && cs.all (isNameChar false) then some (.named (c :: cs), rest) else none
  | _, _ => none

-- What follows the parenthesis that opens a group. Groups that look around are refused.
def readGroup? (f : Flags) (cs : List Char) : Option (GroupHead × List Char) :=
  match f.skip cs with
  | '?' :: 'P' :: '<' :: rest => readName? rest
  | '?' :: '<' :: rest => readName? rest
  | '?' :: rest =>
    let (text, rest) := rest.span fun c => c != ':' && c != ')'
    match rest with
    | ':' :: rest => (f.update? text).map fun g => (.group g false, rest)
    | ')' :: rest =>
      if text.isEmpty then none else (f.update? text).map fun g => (.directive g, rest)
    | _ => none
  | rest => some (.group f true, rest)

-- The tokens of a text, if it has any: the flags that hold, those outside the groups that are open,
-- and the names of groups so far.
def scan? : (fuel : Nat) → Flags → List Flags → List (List Char) → List Char → Option (List Token)
  | 0, _, _, _, _ => none
  | fuel + 1, f, outer, names, cs =>
    let emit (t : Token) (rest : List Char) := (scan? fuel f outer names rest).map (t :: ·)
    match f.skip cs with
    | [] => if outer.isEmpty then some [] else none
    | '(' :: rest => do
      let (head, rest) ← readGroup? f rest
      match head with
      | .directive g => (scan? fuel g outer names rest).map (.directive :: ·)
      | .group g captures => (scan? fuel g (f :: outer) names rest).map (.opening captures :: ·)
      | .named name =>
        if names.contains name then none
        (scan? fuel f (f :: outer) (name :: names) rest).map (.opening true :: ·)
    | ')' :: rest =>
      match outer with
      | [] => none
      | g :: outer => (scan? fuel g outer names rest).map (.closing :: ·)
    | '|' :: rest => emit .bar rest
    | '?' :: rest => emit (.times 0 (some 1)) (skipLazy rest)
    | '*' :: rest => emit (.times 0 none) (skipLazy rest)
    | '+' :: rest => emit (.times 1 none) (skipLazy rest)
    | '{' :: rest => do
      let ((least, more), rest) ← readTimes? f rest
      emit (.times least more) (skipLazy rest)
    | '[' :: rest => do
      let (b, rest) ← Bracket.read? f (rest.length + 1) rest
      emit (ofSet b.chars b.depth) rest
    | '\\' :: rest => do
      let (e, rest) ← Escape.read? f rest
      emit (ofEscape f e) rest
    | '.' :: rest => do emit (← dot? f) rest
    | '^' :: rest => emit (ofAssertion (lineStart f)) rest
    | '$' :: rest => emit (ofAssertion (lineEnd f)) rest
    | c :: rest => emit (ofChar f c) rest

end Token

end JsonSchema.Pattern

import JsonSchema.Yaml.Scalar

-- Indentation gives marks of its own: `blockSequence` and `blockMapping` where a deeper column
-- begins a collection, `blockEnd` where its column is left. A key that is not marked is recognised
-- by the colon after it, on the same line; its marks are then put before it.

namespace JsonSchema.Yaml

inductive Token where
  | version (major minor : Nat)
  | tagHandle (handle meaning : String)
  | documentStart
  | documentEnd
  | blockSequence
  | blockMapping
  | blockEnd
  | flowSequence
  | flowSequenceEnd
  | flowMapping
  | flowMappingEnd
  | entry
  | comma
  | key
  | value
  | alias (name : String)
  | anchor (name : String)
  | tag (handle suffix : String)
  | scalar (style : ScalarStyle) (text : String)
  deriving DecidableEq, Inhabited

-- A place where a key may have begun.
structure PossibleKey where
  -- Whether the text is wrong if it is no key.
  required : Bool
  position : Nat
  index    : Nat
  line     : Nat
  column   : Nat

-- What was read of a text: the tokens, the last one first, and what the next one depends on.
structure Scanner where
  cursor     : Cursor
  tokens     : List Token := []
  -- The column of the innermost block collection, -1 outside of all.
  indent     : Int := -1
  outer      : List Int := []
  keyAllowed : Bool := true
  -- The possible keys, of the innermost flow collection first, of the blocks last.
  keys       : List (Option PossibleKey) := [none]

namespace Scanner

def inFlow (s : Scanner) : Bool := s.keys.length > 1

def push (s : Scanner) (t : Token) : Scanner := { s with tokens := t :: s.tokens }

def insertAt (s : Scanner) (position : Nat) (t : Token) : Scanner :=
  let later := s.tokens.length - position
  { s with tokens := s.tokens.take later ++ t :: s.tokens.drop later }

-- Leaves the block collections right of a column.
def unroll (column : Int) : (outer : List Int) → Scanner → Scanner
  | [], s => s
  | indent :: outer, s =>
    if column < s.indent then unroll column outer ({ s with indent, outer }.push .blockEnd) else s

def leaveBlocks (s : Scanner) (column : Int) : Scanner :=
  if s.inFlow then s else unroll column s.outer s

-- Enters a block collection, if the column is right of the innermost one.
def enterBlock (s : Scanner) (column : Nat) (position : Nat) (t : Token) : Scanner :=
  if !s.inFlow && s.indent < column then
    { s with indent := column, outer := s.indent :: s.outer }.insertAt position t
  else s

-- Gives up the possible key; a required one is missed.
def dropKey? (s : Scanner) : Option Scanner :=
  match s.keys with
  | some key :: rest => if key.required then none else some { s with keys := none :: rest }
  | _ => some s

def noteKey? (s : Scanner) : Option Scanner :=
  if s.keyAllowed then do
    let s ← s.dropKey?
    let c := s.cursor
    let key : PossibleKey :=
      { required := !s.inFlow && s.indent = c.column
        position := s.tokens.length
        index := c.index
        line := c.line
        column := c.column }
    some { s with keys := some key :: s.keys.drop 1 }
  else some s

-- How many characters a key that is not marked may have.
def keyLimit : Nat := 1024

def currentKey? (s : Scanner) : Option (Option PossibleKey) :=
  match s.keys with
  | some key :: _ =>
    if key.line < s.cursor.line || key.index + keyLimit < s.cursor.index then
      if key.required then none else some none
    else some (some key)
  | _ => some none

def mark (s : Scanner) (k : Nat) (t : Token) : Scanner :=
  { s with cursor := s.cursor.skip k }.push t

def allowKey (s : Scanner) (allowed : Bool) : Scanner := { s with keyAllowed := allowed }

def documentMark? (s : Scanner) (t : Token) : Option Scanner := do
  let s ← (s.leaveBlocks (-1)).dropKey?
  some ((s.allowKey false).mark 3 t)

def openFlow? (s : Scanner) (t : Token) : Option Scanner := do
  let s ← s.noteKey?
  some (({ s with keys := none :: s.keys }.allowKey true).mark 1 t)

def closeFlow? (s : Scanner) (t : Token) : Option Scanner := do
  let s ← s.dropKey?
  let keys := if s.inFlow then s.keys.drop 1 else s.keys
  some (({ s with keys }.allowKey false).mark 1 t)

def comma? (s : Scanner) : Option Scanner := do
  let s ← s.dropKey?
  some ((s.allowKey true).mark 1 .comma)

def entry? (s : Scanner) : Option Scanner := do
  if !s.inFlow && !s.keyAllowed then none
  let s := s.enterBlock s.cursor.column s.tokens.length .blockSequence
  let s ← s.dropKey?
  some ((s.allowKey true).mark 1 .entry)

def key? (s : Scanner) : Option Scanner := do
  if !s.inFlow && !s.keyAllowed then none
  let s := s.enterBlock s.cursor.column s.tokens.length .blockMapping
  let s ← s.dropKey?
  some ((s.allowKey !s.inFlow).mark 1 .key)

def value? (s : Scanner) : Option Scanner := do
  match ← s.currentKey? with
  | some key =>
    let s := s.insertAt key.position .key
    let s := s.enterBlock key.column key.position .blockMapping
    some (({ s with keys := none :: s.keys.drop 1 }.allowKey false).mark 1 .value)
  | none =>
    if !s.inFlow && !s.keyAllowed then none
    let s := s.enterBlock s.cursor.column s.tokens.length .blockMapping
    some ((s.allowKey !s.inFlow).mark 1 .value)

-- The characters that may follow the name of an anchor or an alias directly.
def endsName (c : Cursor) : Bool :=
  c.endsWordAt 0 ||
    c.looksAt 0 fun char =>
      char = '?' || char = ':' || char = ',' || char = ']' || char = '}' || char = '%' ||
        char = '@' || char.toNat = 0x60

def name? (s : Scanner) (make : String → Token) : Option Scanner := do
  let s := (← s.noteKey?).allowKey false
  let (name, c) := s.cursor.next.takeWhile isWordChar
  if name.isEmpty || !endsName c then none
  some ({ s with cursor := c }.push (make (String.ofList name)))

def isUriChar (verbatim : Bool) (c : Char) : Bool :=
  isWordChar c || ";/?:@&=+$.%!~*()".toList.contains c || c.toNat = 39 ||
    (verbatim && (c = ',' || c = '[' || c = ']'))

def uriBytes? : List Char → Option (List UInt8)
  | [] => some []
  | '%' :: a :: b :: rest => do
    let n ← hexValue? [a, b]
    (uriBytes? rest).map (n.toUInt8 :: ·)
  | c :: rest =>
    if c = '%' then none else (uriBytes? rest).map ((String.singleton c).toUTF8.toList ++ ·)

def uriText? (cs : List Char) : Option String := do
  String.fromUTF8? ⟨(← uriBytes? cs).toArray⟩

def readTag? (c : Cursor) : Option (String × String × Cursor) := do
  if c.isAt 1 '<' then
    let (uri, c) := (c.skip 2).takeWhile (isUriChar true)
    if uri.isEmpty || !c.isAt 0 '>' then none
    some ("", ← uriText? uri, c.next)
  else
    let (name, afterName) := c.next.takeWhile isWordChar
    if afterName.isAt 0 '!' then
      let (suffix, c) := afterName.next.takeWhile (isUriChar false)
      if suffix.isEmpty then none
      some (String.ofList ('!' :: name ++ ['!']), ← uriText? suffix, c)
    else
      let (more, c) := afterName.takeWhile (isUriChar false)
      match name ++ more with
      | [] => some ("", "!", c)
      | suffix => some ("!", ← uriText? suffix, c)

def tag? (s : Scanner) : Option Scanner := do
  let s := (← s.noteKey?).allowKey false
  let (handle, suffix, c) ← readTag? s.cursor
  if !(c.endsWordAt 0 || (s.inFlow && c.isAt 0 ',')) then none
  some ({ s with cursor := c }.push (.tag handle suffix))

def block? (s : Scanner) (literal : Bool) : Option Scanner := do
  let s := (← s.dropKey?).allowKey true
  let (text, c) ← readBlock? literal s.indent s.cursor.next
  let style := if literal then ScalarStyle.literal else ScalarStyle.folded
  some ({ s with cursor := c }.push (.scalar style (String.ofList text)))

def quoted? (s : Scanner) (quote : Char) : Option Scanner := do
  let s := (← s.noteKey?).allowKey false
  let (text, c) ← readQuoted? quote (s.cursor.rest.length + 1) [] s.cursor.next
  some ({ s with cursor := c }.push (.scalar .quoted (String.ofList text)))

def plain? (s : Scanner) : Option Scanner := do
  let s := (← s.noteKey?).allowKey false
  let fuel := 2 * s.cursor.rest.length + 2
  let (text, broken, c) ← readPlain? s.inFlow (s.indent + 1).toNat fuel [] {} s.cursor
  some ({ s with cursor := c, keyAllowed := broken }.push (.scalar .plain (String.ofList text)))

def beginsPlain (s : Scanner) : Bool :=
  let c := s.cursor
  match c.peek? 0 with
  | none => false
  | some char =>
    !(isBlank char || isBreak char || "-?:,[]\x7b\x7d#&*!|>\"%@".toList.contains char ||
        char.toNat = 39 || char.toNat = 0x60) ||
      (char = '-' && !c.looksAt 1 isBlank) ||
      (!s.inFlow && (char = '?' || char = ':') && !c.endsWordAt 1)

def readDirective? (c : Cursor) : Option (Token × Cursor) := do
  let (name, c) := c.takeWhile isWordChar
  if name.isEmpty || !c.endsWordAt 0 then none
  let c := c.skipWhile isBlank
  match String.ofList name with
  | "YAML" =>
    let (major, c) := c.takeWhile Char.isDigit
    if major.isEmpty || major.length > 9 || !c.isAt 0 '.' then none
    let (minor, c) := c.next.takeWhile Char.isDigit
    if minor.isEmpty || minor.length > 9 then none
    some (.version (Json.digitsValue major) (Json.digitsValue minor), c)
  | "TAG" =>
    if !c.isAt 0 '!' then none
    let (name, c) := c.next.takeWhile isWordChar
    let (handle, c) ←
      if c.isAt 0 '!' then some ('!' :: name ++ ['!'], c.next)
      else if name.isEmpty then some (['!'], c)
      else none
    if !c.looksAt 0 isBlank then none
    let (uri, c) := (c.skipWhile isBlank).takeWhile (isUriChar true)
    if uri.isEmpty || !c.endsWordAt 0 then none
    some (.tagHandle (String.ofList handle) (← uriText? uri), c)
  | _ => none

def directive? (s : Scanner) : Option Scanner := do
  let s ← (s.leaveBlocks (-1)).dropKey?
  let (t, c) ← readDirective? s.cursor.next
  let c ← endLine? c
  some ({ s with cursor := c, keyAllowed := false }.push t)

-- Passes blanks, comments and breaks before a token. After a break a key may begin.
def skipSpace : (fuel : Nat) → Scanner → Scanner
  | 0, s => s
  | fuel + 1, s =>
    let c := s.cursor.skipWhile fun char =>
      char = ' ' || (char = '\t' && (s.inFlow || !s.keyAllowed))
    let c := if c.isAt 0 '#' then c.skipWhile fun _ => true else c
    if c.looksAt 0 isBreak then
      skipSpace fuel { s with cursor := c.readBreak.2, keyAllowed := s.keyAllowed || !s.inFlow }
    else { s with cursor := c }

-- The next token, with those of the indentation before it.
def step? (s : Scanner) : Option Scanner :=
  let c := s.cursor
  match c.peek? 0 with
  | none => none
  | some char =>
    if c.column = 0 && char = '%' then s.directive?
    else if c.atMark '-' then s.documentMark? .documentStart
    else if c.atMark '.' then s.documentMark? .documentEnd
    else if char = '[' then s.openFlow? .flowSequence
    else if char = '{' then s.openFlow? .flowMapping
    else if char = ']' then s.closeFlow? .flowSequenceEnd
    else if char = '}' then s.closeFlow? .flowMappingEnd
    else if char = ',' then s.comma?
    else if char = '-' && c.endsWordAt 1 then s.entry?
    else if char = '?' && (s.inFlow || c.endsWordAt 1) then s.key?
    else if char = ':' && (s.inFlow || c.endsWordAt 1) then s.value?
    else if char = '*' then s.name? .alias
    else if char = '&' then s.name? .anchor
    else if char = '!' then s.tag?
    else if char = '|' && !s.inFlow then s.block? true
    else if char = '>' && !s.inFlow then s.block? false
    else if char = '"' || char.toNat = 39 then s.quoted? char
    else if s.beginsPlain then s.plain?
    else none

def run? : (fuel : Nat) → Scanner → Option Scanner
  | 0, _ => none
  | fuel + 1, s =>
    let s := skipSpace (s.cursor.rest.length + 1) s
    let s := s.leaveBlocks s.cursor.column
    if s.cursor.atEnd then (s.leaveBlocks (-1)).dropKey?
    else
      match s.step? with
      | some s => run? fuel s
      | none => none

end Scanner

def isPrintable (c : Char) : Bool :=
  let n := c.toNat
  n = 0x09 || n = 0x0A || n = 0x0D || (0x20 ≤ n && n ≤ 0x7E) || n = 0x85 ||
    (0xA0 ≤ n && n ≤ 0xFFFD) || 0x10000 ≤ n

-- The tokens of a text; a byte order mark before it does not count.
def tokens? (text : String) : Option (List Token) :=
  let cs :=
    match text.toList with
    | c :: rest => if c.toNat = 0xFEFF then rest else c :: rest
    | [] => []
  if cs.all isPrintable then
    (Scanner.run? (cs.length + 2) { cursor := .ofChars cs }).map (·.tokens.reverse)
  else none

end JsonSchema.Yaml

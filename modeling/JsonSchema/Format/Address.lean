namespace JsonSchema.Format

-- What follows a number up to 255 without needless zeros.
def readOctet? (cs : List Char) : Option (List Char) :=
  let digits := cs.takeWhile Char.isDigit
  let value := digits.foldl (fun n c => 10 * n + (c.toNat - 48)) 0
  if digits.isEmpty || digits.length > 3 || value > 255 then none
  else if digits.length > 1 && digits.head? = some '0' then none
  else some (cs.drop digits.length)

def afterChar? (c : Char) : List Char → Option (List Char)
  | c' :: rest => if c' = c then some rest else none
  | [] => none

def readOctets? (cs : List Char) : Option (List Char) := do
  let cs ← readOctet? cs
  let cs ← readOctet? (← afterChar? '.' cs)
  let cs ← readOctet? (← afterChar? '.' cs)
  readOctet? (← afterChar? '.' cs)

def isIpv4 (s : String) : Bool := readOctets? s.toList = some []

def isHexDigit (c : Char) : Bool :=
  c.isDigit || ('a' ≤ c && c ≤ 'f') || ('A' ≤ c && c ≤ 'F')

def readGroup? (cs : List Char) : Option (List Char) :=
  let digits := cs.takeWhile isHexDigit
  if digits.isEmpty || digits.length > 4 then none else some (cs.drop digits.length)

-- Groups as they are read: how many they are, whether four decimal numbers stand in place of the
-- last two, and what follows.
structure GroupRun where
  count     : Nat := 0
  endsInIp4 : Bool := false
  rest      : List Char

-- The next part after a colon, which the first one does without.
def readNext? (first : Bool) (read? : List Char → Option (List Char)) (cs : List Char) :
    Option (List Char) :=
  if first then read? cs else (afterChar? ':' cs).bind read?

def readGroups (first : Bool) : (limit : Nat) → List Char → GroupRun
  | 0, cs => { rest := cs }
  | limit + 1, cs =>
    match if limit = 0 then none else readNext? first readOctets? cs with
    | some rest => { count := 2, endsInIp4 := true, rest }
    | none =>
      match readNext? first readGroup? cs with
      | some rest =>
        let run := readGroups false limit rest
        { run with count := run.count + 1 }
      | none => { rest := cs }

-- Whether a text writes eight groups, of which two colons may leave out one or more.
def isIpv6 (s : String) : Bool :=
  let head := readGroups true 8 s.toList
  if head.count = 8 then head.rest.isEmpty
  else if head.endsInIp4 then false
  else
    match head.rest with
    | ':' :: ':' :: rest => (readGroups true (7 - head.count) rest).rest.isEmpty
    | _ => false

end JsonSchema.Format

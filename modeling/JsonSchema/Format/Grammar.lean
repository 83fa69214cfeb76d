import JsonSchema.Pattern.Basic
import JsonSchema.Unicode.Case
import JsonSchema.Unicode.Property

namespace JsonSchema.Format.Grammar

open Pattern

def span (low high : Char) : CharSet := .range low.toNat high.toNat

def charsOf (s : String) : CharSet := .unions (s.toList.map .single)

def letter : CharSet := .union (span 'A' 'Z') (span 'a' 'z')

def letterOrDigit : CharSet := .union letter (span '0' '9')

def hexDigit : CharSet := .unions [span '0' '9', span 'A' 'F', span 'a' 'f']

def anyCase (s : String) : Pattern :=
  sequence (s.toList.map fun c => char (Unicode.closeCase (.single c)))

def noSpace : Pattern := char Unicode.whiteSpace.compl

-- Up to 63 letters, digits and hyphens, the first and the last of them no hyphen.
def hostLabel : Pattern :=
  let inner := CharSet.union letterOrDigit (.single '-')
  sequence [char letterOrDigit,
    optional (sequence [between 0 61 (char inner), char letterOrDigit])]

def hostName : Pattern := sequence [hostLabel, many (sequence [single '.', hostLabel])]

def mailbox : Pattern :=
  many1 (char (.union letterOrDigit (charsOf ".!#$%&\x27*+/=?^_\x60\x7b|\x7d~-")))

def email : Pattern := sequence [mailbox, single '@', hostName]

-- A scheme, a colon and anything without blanks.
def uri : Pattern :=
  sequence [char letter, many (char (.union letterOrDigit (charsOf "+.-"))), single ':',
    many noSpace]

def uriReference : Pattern := many noSpace

-- Any text in which braces stand around something, and never within each other.
def uriTemplate : Pattern :=
  let plain := char (CharSet.union (.range 0 0x20) (charsOf "\x7b\x7d")).compl
  many (anyOf [plain, sequence [single '{', many1 plain, single '}']])

def url : Pattern :=
  let scheme := anyOf [sequence [anyCase "http", optional (anyCase "s")], anyCase "ftp"]
  let first := char (CharSet.union Unicode.whiteSpace (charsOf "/$.?#")).compl
  sequence [scheme, literal "://", first, many noSpace]

def uuid : Pattern :=
  let group (n : Nat) := exactly n (char hexDigit)
  sequence [optional (anyCase "urn:uuid:"), group 8, single '-', group 4, single '-', group 4,
    single '-', group 4, single '-', group 12]

def color : Pattern := sequence [single '#', exactly 6 (char hexDigit)]

-- Tokens after slashes, in which a tilde is followed by `0` or `1`.
def jsonPointer : Pattern :=
  let plain := char (charsOf "~/").compl
  many (sequence [single '/', many (anyOf [plain, literal "~0", literal "~1"])])

-- A number without needless zeros, and after it a pointer or `#`.
def relativeJsonPointer : Pattern :=
  let number := anyOf [single '0', sequence [char (span '1' '9'), many (char (span '0' '9'))]]
  sequence [number, anyOf [single '#', jsonPointer]]

end JsonSchema.Format.Grammar

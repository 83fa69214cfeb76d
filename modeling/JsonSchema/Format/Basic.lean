import JsonSchema.Format.Address
import JsonSchema.Format.Grammar
import JsonSchema.Format.Moment
import JsonSchema.Pattern.Parser

namespace JsonSchema

inductive Format where
  | date
  | time
  | dateTime
  | email
  | hostname
  | ipv4
  | ipv6
  | uri
  | uriReference
  | uriTemplate
  | url
  | uuid
  | color
  | jsonPointer
  | relativeJsonPointer
  | regex
  deriving DecidableEq, Inhabited

namespace Format

def all : List Format :=
  [date, time, dateTime, email, hostname, ipv4, ipv6, uri, uriReference, uriTemplate, url,
    uuid, color, jsonPointer, relativeJsonPointer, regex]

def name : Format → String
  | date => "date"
  | time => "time"
  | dateTime => "date-time"
  | email => "email"
  | hostname => "hostname"
  | ipv4 => "ipv4"
  | ipv6 => "ipv6"
  | uri => "uri"
  | uriReference => "uri-reference"
  | uriTemplate => "uri-template"
  | url => "url"
  | uuid => "uuid"
  | color => "color"
  | jsonPointer => "json-pointer"
  | relativeJsonPointer => "relative-json-pointer"
  | regex => "regex"

def ofName? (s : String) : Option Format := all.find? fun f => f.name = s

def hostNameLimit : Nat := 253

def admits (s : String) : Format → Bool
  | date => isDate s
  | time => isTime s
  | dateTime => isDateTime s
  | email => Grammar.email.covers s
  | hostname => s.utf8ByteSize ≤ hostNameLimit && Grammar.hostName.covers s
  | ipv4 => isIpv4 s
  | ipv6 => isIpv6 s
  | uri => Grammar.uri.covers s
  | uriReference => Grammar.uriReference.covers s
  | uriTemplate => Grammar.uriTemplate.covers s
  | url => Grammar.url.covers s
  | uuid => Grammar.uuid.covers s
  | color => Grammar.color.covers s
  | jsonPointer => Grammar.jsonPointer.covers s
  | relativeJsonPointer => Grammar.relativeJsonPointer.covers s
  | regex => (Pattern.parse? s).isSome

end Format

end JsonSchema

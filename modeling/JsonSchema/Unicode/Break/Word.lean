import JsonSchema.Unicode.Break.Grapheme
import JsonSchema.Unicode.Script

-- Word_Break. No character is in two of the classes.

namespace JsonSchema.Unicode

def wordNewline : CharSet := ⟨[(0xB, 0xC), (0x85, 0x85), (0x2028, 0x2029)]⟩

def wordExtend : CharSet :=
  .diff (.unions [graphemeExtend, spacingMark, emojiModifier]) zeroWidthJoiner

-- Format characters, without spaces, joiners and the marks that begin a number.
def wordFormat : CharSet :=
  .diff format (.unions [.range 0x200B 0x200D, wordExtend, prependedConcatenationMark])

def wordKatakana : CharSet :=
  .union katakanaScript.chars ⟨[
    (0x3031, 0x3035), (0x309B, 0x309C), (0x30A0, 0x30A0), (0x30FC, 0x30FC), (0xFF70, 0xFF70)]⟩

def wordHebrew : CharSet := .inter hebrewScript.chars otherLetter

-- The scripts that leave no space between words.
def spacelessScripts : List Script := [
  thaiScript, laoScript, myanmarScript, khmerScript, taiLeScript, newTaiLueScript, taiThamScript,
  taiVietScript, ahomScript]

-- Signs that stand among letters.
def letterSign : CharSet := ⟨[
  (0xB8, 0xB8), (0x2C2, 0x2C5), (0x2D2, 0x2D7), (0x2DE, 0x2DF), (0x2E5, 0x2EB), (0x2ED, 0x2ED),
  (0x2EF, 0x2FF), (0x55A, 0x55C), (0x55E, 0x55E), (0x58A, 0x58A), (0x5F3, 0x5F3), (0x70F, 0x70F),
  (0xA708, 0xA716), (0xA720, 0xA721), (0xA789, 0xA78A), (0xAB5B, 0xAB5B)]⟩

def wordLetter : CharSet :=
  .diff (.union alphabetic letterSign)
    (.unions ([ideographic, wordKatakana, hiraganaScript.chars, wordExtend, wordHebrew]
      ++ spacelessScripts.map (·.chars)))

def wordNumeric : CharSet :=
  .unions [decimalNumber, .range 0x66B 0x66B,
    .diff prependedConcatenationMark (.range 0x70F 0x70F)]

def wordBreaks : List (List String × CharSet) := [
  (["cr"], carriageReturn),
  (["dq", "doublequote"], .single '"'),
  (["ex", "extendnumlet"], .union connectorPunctuation (.range 0x202F 0x202F)),
  (["extend"], wordExtend),
  (["fo", "format"], wordFormat),
  (["hl", "hebrewletter"], wordHebrew),
  (["ka", "katakana"], wordKatakana),
  (["le", "aletter"], wordLetter),
  (["lf"], lineFeed),
  (["mb", "midnumlet"], ⟨[
    (0x2E, 0x2E), (0x2018, 0x2019), (0x2024, 0x2024), (0xFE52, 0xFE52), (0xFF07, 0xFF07),
    (0xFF0E, 0xFF0E)]⟩),
  (["ml", "midletter"], ⟨[
    (0x3A, 0x3A), (0xB7, 0xB7), (0x387, 0x387), (0x55F, 0x55F), (0x5F4, 0x5F4),
    (0x2027, 0x2027), (0xFE13, 0xFE13), (0xFE55, 0xFE55), (0xFF1A, 0xFF1A)]⟩),
  (["mn", "midnum"], ⟨[
    (0x2C, 0x2C), (0x3B, 0x3B), (0x37E, 0x37E), (0x589, 0x589), (0x60C, 0x60D), (0x66C, 0x66C),
    (0x7F8, 0x7F8), (0x2044, 0x2044), (0xFE10, 0xFE10), (0xFE14, 0xFE14), (0xFE50, 0xFE50),
    (0xFE54, 0xFE54), (0xFF0C, 0xFF0C), (0xFF1B, 0xFF1B)]⟩),
  (["nl", "newline"], wordNewline),
  (["nu", "numeric"], wordNumeric),
  (["ri", "regionalindicator"], regionalIndicator),
  (["sq", "singlequote"], .single '\''),
  (["wsegspace"], .diff spaceSeparator ⟨[(0xA0, 0xA0), (0x2007, 0x2007), (0x202F, 0x202F)]⟩),
  (["zwj"], zeroWidthJoiner)]

end JsonSchema.Unicode

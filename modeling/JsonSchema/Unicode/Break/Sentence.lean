import JsonSchema.Unicode.Break.Grapheme

-- Sentence_Break. No character is in two of the classes.

namespace JsonSchema.Unicode

def sentenceExtend : CharSet := .unions [graphemeExtend, zeroWidthJoiner, spacingMark]

def numberMark : CharSet := .diff prependedConcatenationMark (.range 0x70F 0x70F)

-- Format characters, without joiners and the marks that begin a number.
def sentenceFormat : CharSet :=
  .diff format (.unions [.range 0x200C 0x200D, sentenceExtend, numberMark])

def sentenceSep : CharSet := ⟨[(0x85, 0x85), (0x2028, 0x2029)]⟩

def sentenceSpace : CharSet := .diff whiteSpace (.unions [sentenceSep, carriageReturn, lineFeed])

-- Letters of Georgian, whose two alphabets do not tell how a sentence begins.
def georgianLetter : CharSet := ⟨[
  (0x10D0, 0x10FA), (0x10FD, 0x10FF), (0x1C90, 0x1CBA), (0x1CBD, 0x1CBF)]⟩

def sentenceLower : CharSet := .diff lowercase (.union graphemeExtend georgianLetter)

def sentenceUpper : CharSet := .diff (.union titlecaseLetter uppercase) georgianLetter

def sentenceLetter : CharSet :=
  .diff (.union alphabetic (.range 0x5F3 0x5F3))
    (.unions [sentenceLower, sentenceUpper, sentenceExtend])

def sentenceNumeric : CharSet := .unions [decimalNumber, .range 0x66B 0x66C, numberMark]

def fullStop : CharSet := ⟨[
  (0x2E, 0x2E), (0x2024, 0x2024), (0xFE52, 0xFE52), (0xFF0E, 0xFF0E)]⟩

-- Brackets, quotes and ornaments like them.
def sentenceClose : CharSet :=
  .unions [openPunctuation, closePunctuation, initialPunctuation, finalPunctuation,
    .diff quotationMark ⟨[(0xFF02, 0xFF02), (0xFF07, 0xFF07)]⟩,
    ⟨[(0x275B, 0x2760), (0x2E00, 0x2E01), (0x2E06, 0x2E08), (0x2E0B, 0x2E0B),
      (0x1F676, 0x1F678)]⟩]

def sentenceBreaks : List (List String × CharSet) := [
  (["at", "aterm"], fullStop),
  (["cl", "close"], sentenceClose),
  (["cr"], carriageReturn),
  (["ex", "extend"], sentenceExtend),
  (["fo", "format"], sentenceFormat),
  (["le", "oletter"], sentenceLetter),
  (["lf"], lineFeed),
  (["lo", "lower"], sentenceLower),
  (["nu", "numeric"], sentenceNumeric),
  (["sc", "scontinue"], ⟨[
    (0x2C, 0x2D), (0x3A, 0x3B), (0x37E, 0x37E), (0x55D, 0x55D), (0x60C, 0x60D), (0x7F8, 0x7F8),
    (0x1802, 0x1802), (0x1808, 0x1808), (0x2013, 0x2014), (0x3001, 0x3001), (0xFE10, 0xFE11),
    (0xFE13, 0xFE14), (0xFE31, 0xFE32), (0xFE50, 0xFE51), (0xFE54, 0xFE55), (0xFE58, 0xFE58),
    (0xFE63, 0xFE63), (0xFF0C, 0xFF0D), (0xFF1A, 0xFF1B), (0xFF64, 0xFF64)]⟩),
  (["se", "sep"], sentenceSep),
  (["sp"], sentenceSpace),
  (["st", "sterm"], .diff sentenceTerminal fullStop),
  (["up", "upper"], sentenceUpper)]

end JsonSchema.Unicode

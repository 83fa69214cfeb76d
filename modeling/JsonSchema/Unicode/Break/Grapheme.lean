import JsonSchema.Unicode.Property

-- Grapheme_Cluster_Break. No character is in two of the classes.

namespace JsonSchema.Unicode

def carriageReturn : CharSet := .single '\r'

def lineFeed : CharSet := .single '\n'

def zeroWidthJoiner : CharSet := .range 0x200D 0x200D

def clusterExtend : CharSet := .diff (.union graphemeExtend emojiModifier) zeroWidthJoiner

-- What is visible as no character, without the marks that begin a number.
def clusterControl : CharSet :=
  .diff
    (.unions [lineSeparator, paragraphSeparator, control, format,
      .inter unassigned defaultIgnorable])
    (.unions [carriageReturn, lineFeed, .range 0x200C 0x200D, prependedConcatenationMark,
      clusterExtend])

-- Marks with width that stand apart from the character before them.
def apartMark : CharSet := ⟨[
  (0x102B, 0x102C), (0x1038, 0x1038), (0x1062, 0x1064), (0x1067, 0x106D), (0x1083, 0x1083),
  (0x1087, 0x108C), (0x108F, 0x108F), (0x109A, 0x109C), (0x1A61, 0x1A61), (0x1A63, 0x1A64),
  (0xAA7B, 0xAA7B), (0xAA7D, 0xAA7D), (0x11720, 0x11721)]⟩

-- Marks with width that stay with the character before them, and the two vowel signs AM.
def clusterMark : CharSet :=
  .diff (.union spacingMark ⟨[(0xE33, 0xE33), (0xEB3, 0xEB3)]⟩) (.union clusterExtend apartMark)

def clusterLead : CharSet :=
  .union prependedConcatenationMark ⟨[
    (0xD4E, 0xD4E), (0x111C2, 0x111C3), (0x113D1, 0x113D1), (0x1193F, 0x1193F),
    (0x11941, 0x11941), (0x11A3A, 0x11A3A), (0x11A84, 0x11A89), (0x11D46, 0x11D46),
    (0x11F02, 0x11F02)]⟩

def leadingJamo : CharSet := ⟨[(0x1100, 0x115F), (0xA960, 0xA97C)]⟩

-- Vowels of Hangul, and those of Kirat Rai that join in the same way.
def vowelJamo : CharSet := ⟨[
  (0x1160, 0x11A7), (0xD7B0, 0xD7C6), (0x16D63, 0x16D63), (0x16D67, 0x16D6A)]⟩

def trailingJamo : CharSet := ⟨[(0x11A8, 0x11FF), (0xD7CB, 0xD7FB)]⟩

-- The first of the 28 syllables that share a leading consonant and a vowel, for all 399 of these
-- pairs.
def syllableStarts : List Nat := (List.range 399).map fun i => 0xAC00 + 28 * i

def openSyllable : CharSet := ⟨syllableStarts.map fun n => (n, n)⟩

def closedSyllable : CharSet := ⟨syllableStarts.map fun n => (n + 1, n + 27)⟩

def graphemeBreaks : List (List String × CharSet) := [
  (["cn", "control"], clusterControl),
  (["cr"], carriageReturn),
  (["ex", "extend"], clusterExtend),
  (["l"], leadingJamo),
  (["lf"], lineFeed),
  (["lv"], openSyllable),
  (["lvt"], closedSyllable),
  (["pp", "prepend"], clusterLead),
  (["ri", "regionalindicator"], regionalIndicator),
  (["sm", "spacingmark"], clusterMark),
  (["t"], trailingJamo),
  (["v"], vowelJamo),
  (["zwj"], zeroWidthJoiner)]

end JsonSchema.Unicode

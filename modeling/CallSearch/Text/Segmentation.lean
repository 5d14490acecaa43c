/-
# CallSearch.Text.Segmentation — where text divides

Three properties say how characters take part in dividing a text into grapheme
clusters, words and sentences.  `Segmentation.cluster?`, `Segmentation.word?` and
`Segmentation.sentence?` are the sets of the characters with a value of one of them.

Names are in lower case and without separators, the short one after the long one.
Characters that no value names take no special part.
-/
import CallSearch.Text.Property
import CallSearch.Text.Script

namespace CallSearch.Text.Segmentation

set_option autoImplicit false

/-- The carriage return. -/
def carriageReturn : CharSet := .single 0xD

/-- The line feed. -/
def lineFeed : CharSet := .single 0xA

/-- The joiner that takes up no width. -/
def joiner : CharSet := .single 0x200D

/-! ## Grapheme clusters -/

/-- What extends a cluster. -/
def clusterExtend : CharSet := Property.graphemeExtend ∪ Property.emojiModifier

/-- What stands before the cluster it belongs to. -/
def clusterPrepend : CharSet :=
  ⟨prependedMark⟩ ∪ ⟨[
    (0xD4E, 0xD4E), (0x111C2, 0x111C3), (0x113D1, 0x113D1), (0x1193F, 0x1193F), (0x11941, 0x11941),
    (0x11A3A, 0x11A3A), (0x11A84, 0x11A89), (0x11D46, 0x11D46), (0x11F02, 0x11F02)]⟩

/-- Controls, which stand alone. -/
def clusterControl : CharSet :=
  (Category.setOf [.lineSeparator, .paragraphSeparator, .control, .format]
    ∪ (Category.set .unassigned).inter Property.defaultIgnorable).diff
    (CharSet.ofPoints [0xA, 0xD, 0x200C, 0x200D] ∪ ⟨prependedMark⟩ ∪ clusterExtend)

/-- Spacing marks that do not join the cluster before them. -/
def looseSpacingMarks : CharSet := ⟨[
  (0x102B, 0x102C), (0x1038, 0x1038), (0x1062, 0x1064), (0x1067, 0x106D), (0x1083, 0x1083),
  (0x1087, 0x108C), (0x108F, 0x108F), (0x109A, 0x109C), (0x1A61, 0x1A61), (0x1A63, 0x1A64),
  (0xAA7B, 0xAA7B), (0xAA7D, 0xAA7D), (0x11720, 0x11721)]⟩

/-- The spacing marks that join the cluster before them. -/
def clusterSpacingMark : CharSet :=
  ((Category.set .spacingMark).diff looseSpacingMarks ∪ .ofPoints [0xE33, 0xEB3]).diff
    clusterExtend

/-- The syllables of Hangul without a final consonant. -/
def openSyllables : CharSet := .ofPoints (Run.points ⟨0xAC00, 0xD788, 28⟩)

/-- The characters with a value for grapheme clusters. -/
def cluster? : String → Option CharSet
  | "control" | "cn" => some clusterControl
  | "cr" => some carriageReturn
  | "extend" | "ex" => some clusterExtend
  | "l" => some ⟨[(0x1100, 0x115F), (0xA960, 0xA97C)]⟩
  | "lf" => some lineFeed
  | "lv" => some openSyllables
  | "lvt" => some (CharSet.diff ⟨[(0xAC00, 0xD7A3)]⟩ openSyllables)
  | "prepend" | "pp" => some clusterPrepend
  | "regionalindicator" | "ri" => some Property.regionalIndicator
  | "spacingmark" | "sm" => some clusterSpacingMark
  | "t" => some ⟨[(0x11A8, 0x11FF), (0xD7CB, 0xD7FB)]⟩
  | "v" => some ⟨[(0x1160, 0x11A7), (0xD7B0, 0xD7C6), (0x16D63, 0x16D63), (0x16D67, 0x16D6A)]⟩
  | "zwj" => some joiner
  | _ => none

/-! ## Words -/

/-- What extends a word. -/
def wordExtend : CharSet :=
  (Property.graphemeExtend ∪ Category.set .spacingMark ∪ Property.emojiModifier).diff joiner

/-- The characters of Katakana and what is written with them. -/
def katakana : CharSet :=
  Script.setNamed "kana"
    ∪ ⟨[(0x3031, 0x3035), (0x309B, 0x309C), (0x30A0, 0x30A0), (0x30FC, 0x30FC), (0xFF70, 0xFF70)]⟩

/-- The letters of Hebrew. -/
def hebrewLetters : CharSet := (Script.setNamed "hebr").inter (Category.set .otherLetter)

/-- The scripts that do not divide words by blanks. -/
def undividedScripts : List String :=
  ["thai", "laoo", "mymr", "khmr", "tale", "talu", "lana", "tavt", "ahom"]

/-- Characters that count as letters in words, though they are not alphabetic. -/
def otherWordLetters : CharSet := ⟨[
  (0x2C2, 0x2C5), (0x2D2, 0x2D7), (0x2DE, 0x2DF), (0x2E5, 0x2EB), (0x2ED, 0x2ED), (0x2EF, 0x2FF),
  (0x55A, 0x55C), (0x55E, 0x55E), (0x58A, 0x58A), (0x5F3, 0x5F3), (0x70F, 0x70F),
  (0xA708, 0xA716), (0xA720, 0xA721), (0xA789, 0xA78A), (0xAB5B, 0xAB5B)]⟩

/-- The letters of words. -/
def wordLetters : CharSet :=
  (Property.alphabetic ∪ otherWordLetters).diff
    (⟨ideographic⟩ ∪ katakana ∪ wordExtend ∪ hebrewLetters
      ∪ CharSet.unionAll (("hira" :: undividedScripts).map Script.setNamed))

/-- The characters of numbers. -/
def numeric : CharSet :=
  Category.set .decimalNumber ∪ ⟨[
    (0x600, 0x605), (0x66B, 0x66C), (0x6DD, 0x6DD), (0x890, 0x891), (0x8E2, 0x8E2),
    (0x110BD, 0x110BD), (0x110CD, 0x110CD)]⟩

/-- The characters with a value for words. -/
def word? : String → Option CharSet
  | "aletter" | "le" => some wordLetters
  | "cr" => some carriageReturn
  | "doublequote" | "dq" => some (.single 0x22)
  | "extend" => some wordExtend
  | "extendnumlet" | "ex" => some (Category.set .connectorPunctuation ∪ .single 0x202F)
  | "format" | "fo" =>
      some ((Category.set .format).diff
        (⟨[(0x200B, 0x200D)]⟩ ∪ wordExtend ∪ clusterPrepend))
  | "hebrewletter" | "hl" => some hebrewLetters
  | "katakana" | "ka" => some katakana
  | "lf" => some lineFeed
  | "midletter" | "ml" =>
      some (.ofPoints [0x3A, 0xB7, 0x387, 0x55F, 0x5F4, 0x2027, 0xFE13, 0xFE55, 0xFF1A])
  | "midnum" | "mn" =>
      some (.ofPoints
        [0x2C, 0x3B, 0x37E, 0x589, 0x60C, 0x60D, 0x66C, 0x7F8, 0x2044, 0xFE10, 0xFE14, 0xFE50,
         0xFE54, 0xFF0C, 0xFF1B])
  | "midnumlet" | "mb" => some (.ofPoints [0x2E, 0x2018, 0x2019, 0x2024, 0xFE52, 0xFF07, 0xFF0E])
  | "newline" | "nl" => some (.ofPoints [0xB, 0xC, 0x85, 0x2028, 0x2029])
  | "numeric" | "nu" => some (numeric.diff (.single 0x66C))
  | "regionalindicator" | "ri" => some Property.regionalIndicator
  | "singlequote" | "sq" => some (.single 0x27)
  | "wsegspace" =>
      some ((Category.set .spaceSeparator).diff (.ofPoints [0xA0, 0x2007, 0x202F]))
  | "zwj" => some joiner
  | _ => none

/-! ## Sentences -/

/-- What extends a part of a sentence. -/
def sentenceExtend : CharSet := Property.graphemeExtend ∪ Category.set .spacingMark ∪ joiner

/-- The characters that separate paragraphs. -/
def sentenceSeparator : CharSet := .ofPoints [0x85, 0x2028, 0x2029]

/-- The lower-case letters of sentences. -/
def sentenceLower : CharSet :=
  Property.lowercase.diff (Property.graphemeExtend ∪ ⟨[(0x10D0, 0x10FA), (0x10FD, 0x10FF)]⟩)

/-- The upper-case letters of sentences. -/
def sentenceUpper : CharSet :=
  Category.set .titlecaseLetter
    ∪ Property.uppercase.diff ⟨[(0x1C90, 0x1CBA), (0x1CBD, 0x1CBF)]⟩

/-- Full stops, which may end a sentence. -/
def fullStop : CharSet := .ofPoints [0x2E, 0x2024, 0xFE52, 0xFF0E]

/-- The marks that end a sentence. -/
def sentenceEnd : CharSet := CharSet.diff ⟨sentenceTerminal⟩ fullStop

/-- Marks that close a part of a sentence, though they are neither brackets nor paired quotes. -/
def otherClosing : CharSet := ⟨[
  (0x22, 0x22), (0x27, 0x27), (0x275B, 0x2760), (0x2E00, 0x2E01), (0x2E06, 0x2E08),
  (0x2E0B, 0x2E0B), (0x1F676, 0x1F678)]⟩

/-- The marks after which a sentence goes on. -/
def sentenceContinue : CharSet := ⟨[
  (0x2C, 0x2D), (0x3A, 0x3B), (0x37E, 0x37E), (0x55D, 0x55D), (0x60C, 0x60D), (0x7F8, 0x7F8),
  (0x1802, 0x1802), (0x1808, 0x1808), (0x2013, 0x2014), (0x3001, 0x3001), (0xFE10, 0xFE11),
  (0xFE13, 0xFE14), (0xFE31, 0xFE32), (0xFE50, 0xFE51), (0xFE54, 0xFE55), (0xFE58, 0xFE58),
  (0xFE63, 0xFE63), (0xFF0C, 0xFF0D), (0xFF1A, 0xFF1B), (0xFF64, 0xFF64)]⟩

/-- The characters with a value for sentences. -/
def sentence? : String → Option CharSet
  | "aterm" | "at" => some fullStop
  | "close" | "cl" =>
      some ((Category.setOf
        [.openPunctuation, .closePunctuation, .initialPunctuation, .finalPunctuation]
          ∪ otherClosing).diff (fullStop ∪ sentenceEnd))
  | "cr" => some carriageReturn
  | "extend" | "ex" => some sentenceExtend
  | "format" | "fo" =>
      some ((Category.set .format).diff
        (⟨[(0x200C, 0x200D)]⟩ ∪ sentenceExtend ∪ clusterPrepend))
  | "lf" => some lineFeed
  | "lower" | "lo" => some sentenceLower
  | "numeric" | "nu" => some numeric
  | "oletter" | "le" =>
      some ((Property.alphabetic ∪ .ofPoints [0x5F3, 0x70F]).diff
        (sentenceLower ∪ sentenceUpper ∪ sentenceExtend))
  | "scontinue" | "sc" => some sentenceContinue
  | "sep" | "se" => some sentenceSeparator
  | "sp" => some (CharSet.blank.diff (sentenceSeparator ∪ .ofPoints [0xA, 0xD]))
  | "sterm" | "st" => some sentenceEnd
  | "upper" | "up" => some sentenceUpper
  | _ => none

end CallSearch.Text.Segmentation

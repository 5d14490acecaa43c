/-
# CallSearch.Text.Property — properties that hold or do not hold of a character

`Property.named?` is the set of the characters with a property.  Most properties are
put together from general categories and a table of exceptions; the tables stand in
`CallSearch.Text.Property.Table`.

Names are in lower case and without separators, the short one after the long one.
-/
import CallSearch.Text.Category
import CallSearch.Text.Property.Table

namespace CallSearch.Text.Property

set_option autoImplicit false

/-- Letters and numbers written as letters. -/
def letterLike : CharSet := Category.setOf (.letterNumber :: Category.letters)

/-- The alphabetic characters. -/
def alphabetic : CharSet := letterLike ∪ ⟨otherAlphabetic⟩

/-- The lower-case characters. -/
def lowercase : CharSet := Category.set .lowercaseLetter ∪ ⟨otherLowercase⟩

/-- The upper-case characters. -/
def uppercase : CharSet := Category.set .uppercaseLetter ∪ ⟨otherUppercase⟩

/-- The characters with a case. -/
def cased : CharSet := lowercase ∪ uppercase ∪ Category.set .titlecaseLetter

/-- The characters that the casing of a word passes over. -/
def caseIgnorable : CharSet :=
  Category.setOf [.nonspacingMark, .enclosingMark, .format, .modifierLetter, .modifierSymbol]
    ∪ ⟨wordInnerPunctuation⟩

/-- The characters that differ from their form in some case. -/
def changesWhenCasemapped : CharSet :=
  .ofRuns changesWhenLowercased ∪ .ofRuns changesWhenUppercased ∪ .ofRuns changesWhenTitlecased

/-- The mathematical characters. -/
def math : CharSet := Category.set .mathSymbol ∪ ⟨otherMath⟩

/-- The characters that extend what stands before them. -/
def graphemeExtend : CharSet :=
  Category.setOf [.nonspacingMark, .enclosingMark] ∪ ⟨otherGraphemeExtend⟩

/-- The characters that stand by themselves. -/
def graphemeBase : CharSet :=
  (graphemeExtend ∪ Category.setOf
    (.unassigned :: .lineSeparator :: .paragraphSeparator :: Category.others)).complement

/-- What is kept for the notation of patterns. -/
def patternNotation : CharSet := CharSet.union ⟨patternSyntax⟩ ⟨patternBlank⟩

/-- The characters that may begin an identifier. -/
def identifierStart : CharSet := (letterLike ∪ ⟨otherIdentifierStart⟩).diff patternNotation

/-- The characters that may continue an identifier. -/
def identifierPart : CharSet :=
  (identifierStart ∪ ⟨otherIdentifierPart⟩
    ∪ Category.setOf [.nonspacingMark, .spacingMark, .decimalNumber, .connectorPunctuation]).diff
    patternNotation

/-- The characters that are not shown by default. -/
def defaultIgnorable : CharSet :=
  (Category.set .format ∪ ⟨variationSelector⟩ ∪ ⟨otherDefaultIgnorable⟩).diff
    (CharSet.blank ∪ ⟨prependedMark⟩ ∪ ⟨[(0xFFF9, 0xFFFB), (0x13430, 0x1343F)]⟩)

/-- The modifiers of emoji. -/
def emojiModifier : CharSet := ⟨[(0x1F3FB, 0x1F3FF)]⟩

/-- The letters that flags of regions consist of. -/
def regionalIndicator : CharSet := ⟨[(0x1F1E6, 0x1F1FF)]⟩

/-- The characters with a property. -/
def named? : String → Option CharSet
  | "alphabetic" | "alpha" => some alphabetic
  | "asciihexdigit" | "ahex" => some ⟨[(0x30, 0x39), (0x41, 0x46), (0x61, 0x66)]⟩
  | "bidicontrol" | "bidic" => some ⟨bidiControl⟩
  | "bidimirrored" | "bidim" => some ⟨bidiMirrored⟩
  | "caseignorable" | "ci" => some caseIgnorable
  | "cased" => some cased
  | "changeswhencasefolded" | "cwcf" => some (.ofRuns changesWhenCasefolded)
  | "changeswhencasemapped" | "cwcm" => some changesWhenCasemapped
  | "changeswhenlowercased" | "cwl" => some (.ofRuns changesWhenLowercased)
  | "changeswhentitlecased" | "cwt" => some (.ofRuns changesWhenTitlecased)
  | "changeswhenuppercased" | "cwu" => some (.ofRuns changesWhenUppercased)
  | "dash" => some ⟨dash⟩
  | "defaultignorablecodepoint" | "di" => some defaultIgnorable
  | "deprecated" | "dep" => some ⟨deprecated⟩
  | "diacritic" | "dia" => some ⟨diacritic⟩
  | "emoji" => some ⟨emoji⟩
  | "emojicomponent" | "ecomp" => some ⟨emojiComponent⟩
  | "emojimodifier" | "emod" => some emojiModifier
  | "emojimodifierbase" | "ebase" => some ⟨emojiModifierBase⟩
  | "emojipresentation" | "epres" => some ⟨emojiPresentation⟩
  | "extendedpictographic" | "extpict" => some ⟨extendedPictographic⟩
  | "extender" | "ext" => some ⟨extender⟩
  | "graphemebase" | "grbase" => some graphemeBase
  | "graphemeextend" | "grext" => some graphemeExtend
  | "graphemelink" | "grlink" => some ⟨graphemeLink⟩
  | "hexdigit" | "hex" => some ⟨hexDigit⟩
  | "hyphen" => some ⟨hyphen⟩
  | "idcompatmathcontinue" => some (CharSet.union ⟨compatMathPart⟩ ⟨compatMathStart⟩)
  | "idcompatmathstart" => some ⟨compatMathStart⟩
  | "idcontinue" | "idc" => some identifierPart
  | "idsbinaryoperator" | "idsb" => some ⟨binaryIdeographicOperator⟩
  | "idstart" | "ids" => some identifierStart
  | "idstrinaryoperator" | "idst" => some ⟨[(0x2FF2, 0x2FF3)]⟩
  | "idsunaryoperator" | "idsu" => some ⟨[(0x2FFE, 0x2FFF)]⟩
  | "ideographic" | "ideo" => some ⟨ideographic⟩
  | "joincontrol" | "joinc" => some ⟨[(0x200C, 0x200D)]⟩
  | "logicalorderexception" | "loe" => some ⟨logicalOrderException⟩
  | "lowercase" | "lower" => some lowercase
  | "math" => some math
  | "modifiercombiningmark" | "mcm" => some ⟨modifierCombiningMark⟩
  | "noncharactercodepoint" | "nchar" => some ⟨noncharacter⟩
  | "otheralphabetic" | "oalpha" => some ⟨otherAlphabetic⟩
  | "otherdefaultignorablecodepoint" | "odi" => some ⟨otherDefaultIgnorable⟩
  | "othergraphemeextend" | "ogrext" => some ⟨otherGraphemeExtend⟩
  | "otheridcontinue" | "oidc" => some ⟨otherIdentifierPart⟩
  | "otheridstart" | "oids" => some ⟨otherIdentifierStart⟩
  | "otherlowercase" | "olower" => some ⟨otherLowercase⟩
  | "othermath" | "omath" => some ⟨otherMath⟩
  | "otheruppercase" | "oupper" => some ⟨otherUppercase⟩
  | "patternsyntax" | "patsyn" => some ⟨patternSyntax⟩
  | "patternwhitespace" | "patws" => some ⟨patternBlank⟩
  | "prependedconcatenationmark" | "pcm" => some ⟨prependedMark⟩
  | "quotationmark" | "qmark" => some ⟨quotationMark⟩
  | "radical" => some ⟨radical⟩
  | "regionalindicator" | "ri" => some regionalIndicator
  | "sentenceterminal" | "sterm" => some ⟨sentenceTerminal⟩
  | "softdotted" | "sd" => some ⟨softDotted⟩
  | "terminalpunctuation" | "term" => some ⟨terminalPunctuation⟩
  | "unifiedideograph" | "uideo" => some ⟨unifiedIdeograph⟩
  | "uppercase" | "upper" => some uppercase
  | "variationselector" | "vs" => some ⟨variationSelector⟩
  | "whitespace" | "wspace" | "space" => some .blank
  | "xidcontinue" | "xidc" => some (identifierPart.diff ⟨unstableIdentifierPart⟩)
  | "xidstart" | "xids" => some (identifierStart.diff ⟨unstableIdentifierStart⟩)
  | _ => none

end CallSearch.Text.Property

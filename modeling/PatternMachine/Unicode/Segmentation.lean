import PatternMachine.Unicode.Derived
import PatternMachine.Unicode.Emoji
import PatternMachine.Unicode.Script

/-!
# Text boundaries

The properties that the boundaries of grapheme clusters, words and sentences are found by. Every
value is listed with the names that it answers to.
-/

namespace PatternMachine.Unicode

/-! ### Grapheme clusters -/

/-- The syllables of Hangul without a final consonant. Behind each stand the twenty-seven that only
differ from it in that they have one. -/
def hangulOpen : List Nat := (List.range 399).map fun k => 0xAC00 + 28 * k

def openSyllable : CodeSet := ⟨hangulOpen.map fun n => ⟨n, n⟩⟩

def closedSyllable : CodeSet := ⟨hangulOpen.map fun n => ⟨n + 1, n + 27⟩⟩

def clusterExtend : CodeSet := graphemeExtend.union emojiModifier

def clusterControl : CodeSet :=
  (CodeSet.unions [lineSeparator, paragraphSeparator, control, format,
    unassigned.inter defaultIgnorable]).diff .scalars
    (.unions [clusterExtend, prependedConcatenationMark, .ofCodes [0x0A, 0x0D, 0x200D]])

def clusterPrepend : CodeSet := prependedConcatenationMark.union prependedLetter

def clusterSpacing : CodeSet :=
  (spacingMark.union (.ofCodes [0xE33, 0xEB3])).diff .scalars (clusterExtend.union unspacedMark)

/-- Property `Grapheme_Cluster_Break`. -/
def clusterBreaks : List (List String × CodeSet) := [
  (["cr"], .ofCodes [0x0D]),
  (["lf"], .ofCodes [0x0A]),
  (["cn", "control"], clusterControl),
  (["ex", "extend"], clusterExtend),
  (["zwj"], .ofCodes [0x200D]),
  (["ri", "regionalindicator"], regionalIndicator),
  (["pp", "prepend"], clusterPrepend),
  (["sm", "spacingmark"], clusterSpacing),
  (["l"], ⟨[⟨0x1100, 0x115F⟩, ⟨0xA960, 0xA97C⟩]⟩),
  (["v"], ⟨[⟨0x1160, 0x11A7⟩, ⟨0xD7B0, 0xD7C6⟩, ⟨0x16D63, 0x16D63⟩, ⟨0x16D67, 0x16D6A⟩]⟩),
  (["t"], ⟨[⟨0x11A8, 0x11FF⟩, ⟨0xD7CB, 0xD7FB⟩]⟩),
  (["lv"], openSyllable),
  (["lvt"], closedSyllable)]

/-! ### Words -/

def wordExtend : CodeSet := .unions [graphemeExtend, spacingMark, emojiModifier]

/-- Signs in front of numbers count as digits; the mark of abbreviations in Syriac is none. -/
def numberSign : CodeSet := prependedConcatenationMark.diff .scalars (.ofCodes [0x70F])

def wordFormat : CodeSet :=
  format.diff .scalars (.unions [wordExtend, prependedConcatenationMark, zeroWidth])

def wordKatakana : CodeSet :=
  (CodeSet.union Script.katakana kanaSign).diff .scalars wordExtend

def hebrewLetter : CodeSet := Script.hebrew.inter otherLetter

def wordLetter : CodeSet :=
  (alphabetic.diff .scalars
    (.unions [ideographic, wordKatakana, complexContext, Script.hiragana, wordExtend,
      hebrewLetter])).union wordSign

def wordNumeric : CodeSet := .unions [decimalNumber, numberSign, .ofCodes [0x66B, 0x19DA]]

/-- Property `Word_Break`. -/
def wordBreaks : List (List String × CodeSet) := [
  (["cr"], .ofCodes [0x0D]),
  (["lf"], .ofCodes [0x0A]),
  (["nl", "newline"], .ofCodes [0x0B, 0x0C, 0x85, 0x2028, 0x2029]),
  (["extend"], wordExtend),
  (["zwj"], .ofCodes [0x200D]),
  (["ri", "regionalindicator"], regionalIndicator),
  (["fo", "format"], wordFormat),
  (["ka", "katakana"], wordKatakana),
  (["hl", "hebrewletter"], hebrewLetter),
  (["le", "aletter"], wordLetter),
  (["sq", "singlequote"], .ofCodes [0x27]),
  (["dq", "doublequote"], .ofCodes [0x22]),
  (["mb", "midnumlet"], midBoth),
  (["ml", "midletter"], midLetter),
  (["mn", "midnum"], midNumber),
  (["nu", "numeric"], wordNumeric),
  (["ex", "extendnumlet"], connectorPunctuation.union (.ofCodes [0x202F])),
  (["wsegspace"],
    ⟨[⟨0x20, 0x20⟩, ⟨0x1680, 0x1680⟩, ⟨0x2000, 0x2006⟩, ⟨0x2008, 0x200A⟩, ⟨0x205F, 0x205F⟩,
      ⟨0x3000, 0x3000⟩]⟩)]

/-! ### Sentences -/

def sentenceExtend : CodeSet := .unions [graphemeExtend, spacingMark, .ofCodes [0x200D]]

def sentenceFormat : CodeSet :=
  format.diff .scalars (.unions [sentenceExtend, numberSign, joinControl])

def sentenceLower : CodeSet := lowercase.diff .scalars (graphemeExtend.union georgianLetter)

def sentenceUpper : CodeSet :=
  (titlecaseLetter.union uppercase).diff .scalars georgianCapital

def sentenceLetter : CodeSet :=
  (alphabetic.union (.ofCodes [0x5F3])).diff .scalars
    (.unions [sentenceLower, sentenceUpper, sentenceExtend])

def sentenceNumeric : CodeSet :=
  .unions [decimalNumber, numberSign, .ofCodes [0x66B, 0x66C, 0x19DA]]

def sentenceStop : CodeSet := sentenceTerminal.diff .scalars ambiguousStop

def sentenceClose : CodeSet :=
  .unions [openPunctuation, closePunctuation, initialPunctuation, finalPunctuation, closingQuote]

/-- Property `Sentence_Break`. -/
def sentenceBreaks : List (List String × CodeSet) := [
  (["cr"], .ofCodes [0x0D]),
  (["lf"], .ofCodes [0x0A]),
  (["se", "sep"], .ofCodes [0x85, 0x2028, 0x2029]),
  (["ex", "extend"], sentenceExtend),
  (["fo", "format"], sentenceFormat),
  (["sp"], whiteSpace.diff .scalars (.ofCodes [0x0A, 0x0D, 0x85, 0x2028, 0x2029])),
  (["lo", "lower"], sentenceLower),
  (["up", "upper"], sentenceUpper),
  (["le", "oletter"], sentenceLetter),
  (["nu", "numeric"], sentenceNumeric),
  (["at", "aterm"], ambiguousStop),
  (["sc", "scontinue"], sentenceContinue),
  (["st", "sterm"], sentenceStop),
  (["cl", "close"], sentenceClose)]

end PatternMachine.Unicode

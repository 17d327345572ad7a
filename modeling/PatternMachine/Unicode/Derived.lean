import PatternMachine.Unicode.Letter
import PatternMachine.Unicode.Mark
import PatternMachine.Unicode.Number
import PatternMachine.Unicode.Punctuation
import PatternMachine.Unicode.Symbol
import PatternMachine.Unicode.Separator
import PatternMachine.Unicode.Additions
import PatternMachine.Unicode.Listed
import PatternMachine.Unicode.Break
import PatternMachine.Unicode.CaseChange
import PatternMachine.Unicode.Recent

/-!
# Derived properties

Groups of general categories, and the properties that are derived from categories and lists.
-/

namespace PatternMachine.Unicode

/-! ### Groups of categories -/

def letter : CodeSet :=
  .unions [uppercaseLetter, lowercaseLetter, titlecaseLetter, modifierLetter, otherLetter]

def casedLetter : CodeSet := .unions [uppercaseLetter, lowercaseLetter, titlecaseLetter]

def mark : CodeSet := .unions [nonspacingMark, spacingMark, enclosingMark]

def number : CodeSet := .unions [decimalNumber, letterNumber, otherNumber]

def punctuation : CodeSet :=
  .unions [connectorPunctuation, dashPunctuation, openPunctuation, closePunctuation,
    initialPunctuation, finalPunctuation, otherPunctuation]

def symbol : CodeSet := .unions [mathSymbol, currencySymbol, modifierSymbol, otherSymbol]

def separator : CodeSet := .unions [spaceSeparator, lineSeparator, paragraphSeparator]

/-- The code points that are no characters at all. -/
def surrogate : CodeSet := ⟨Alphabet.scalars.gap.toList⟩

def unassigned : CodeSet :=
  (CodeSet.unions [letter, mark, number, punctuation, symbol, separator, control, format,
    privateUse, surrogate]).complement .scalars

def assigned : CodeSet := unassigned.complement .scalars

/-- Controls, format characters, private use, surrogates and what is unassigned. -/
def other : CodeSet := .unions [control, format, privateUse, surrogate, unassigned]

/-! ### Case -/

def uppercase : CodeSet := uppercaseLetter.union otherUppercase

def lowercase : CodeSet := lowercaseLetter.union otherLowercase

def cased : CodeSet := .unions [uppercase, lowercase, titlecaseLetter]

def caseIgnorable : CodeSet :=
  .unions [nonspacingMark, enclosingMark, format, modifierLetter, modifierSymbol, midLetter,
    midBoth, .ofCodes [0x27]]

def changesWhenLowercased : CodeSet :=
  (uppercase.union titlecaseLetter).diff .scalars unpairedUppercase

def changesWhenUppercased : CodeSet :=
  (lowercase.union titlecaseLetter).diff .scalars unpairedLowercase

def changesWhenTitlecased : CodeSet :=
  (lowercase.diff .scalars (unpairedLowercase.union georgianLetter)).union titlecaseDigraph

def changesWhenCasefolded : CodeSet :=
  (changesWhenLowercased.diff .scalars unfoldedUppercase).union foldedLowercase

def changesWhenCasemapped : CodeSet :=
  .unions [changesWhenLowercased, changesWhenUppercased, changesWhenTitlecased]

/-! ### Kinds of characters -/

def alphabetic : CodeSet := .unions [letter, letterNumber, otherAlphabetic]

def math : CodeSet := mathSymbol.union otherMath

def defaultIgnorable : CodeSet :=
  (CodeSet.unions [otherDefaultIgnorable, format, variationSelector]).diff .scalars
    (.unions [whiteSpace, annotationMark, prependedConcatenationMark])

def graphemeExtend : CodeSet := .unions [nonspacingMark, enclosingMark, otherGraphemeExtend]

def graphemeBase : CodeSet :=
  (CodeSet.unions [other, lineSeparator, paragraphSeparator, graphemeExtend]).complement .scalars

/-- The characters of words: letters, marks, digits, connectors and joiners. -/
def wordCharacter : CodeSet :=
  .unions [alphabetic, mark, decimalNumber, connectorPunctuation, joinControl]

/-! ### Identifiers -/

def patternReserved : CodeSet := patternSyntax.union patternWhiteSpace

def idStart : CodeSet :=
  (CodeSet.unions [letter, letterNumber, otherIdStart]).diff .scalars patternReserved

def idContinue : CodeSet :=
  (CodeSet.unions [idStart, nonspacingMark, spacingMark, decimalNumber, connectorPunctuation,
    otherIdContinue]).diff .scalars patternReserved

/-- Start characters that stay such under compatibility decomposition. -/
def xidStart : CodeSet := idStart.diff .scalars (unstableIdContinue.union unstableIdStart)

def xidContinue : CodeSet := idContinue.diff .scalars unstableIdContinue

/-! ### Single characters -/

def isWhitespace (c : Char) : Bool := whiteSpace.contains c.toNat

def isAlphabetic (c : Char) : Bool :=
  alphabetic.contains c.toNat || recentAlphabetic.contains c.toNat

def isAlphanumeric (c : Char) : Bool :=
  isAlphabetic c || number.contains c.toNat || recentNumber.contains c.toNat

/-- Grapheme extenders merge with what stands before them. The halfwidth voicing marks take a place
of their own in spite of the property. -/
def isCombining (c : Char) : Bool :=
  (graphemeExtend.contains c.toNat || recentGraphemeExtend.contains c.toNat) &&
    c != '\uFF9E' && c != '\uFF9F'

/-- Characters with a visible form: separators other than the space, controls, format characters,
private use and unassigned code points have none. -/
def visible : CodeSet := .unions [letter, mark, number, punctuation, symbol, .ofCodes [0x20]]

/-- Ignorable letters, such as the fillers of Hangul, are blank although they are letters. -/
def isVisible (c : Char) : Bool :=
  (visible.contains c.toNat || recentVisible.contains c.toNat) &&
    !defaultIgnorable.contains c.toNat

end PatternMachine.Unicode

import PatternMachine.Unicode.Segmentation
import PatternMachine.Unicode.ScriptExtension
import PatternMachine.Unicode.Age
import PatternMachine.Unicode.CaseOrbit

/-!
# Properties of characters

Properties and their values by name, and the case variants of a set.
-/

namespace PatternMachine.Unicode

/-- General categories and their groups under all of their names. -/
def categories : List (List String × CodeSet) := [
  (["any"], .full .scalars),
  (["assigned"], assigned),
  (["ascii"], ⟨[⟨0, 0x7F⟩]⟩),
  (["l", "letter"], letter),
  (["lc", "casedletter"], casedLetter),
  (["lu", "uppercaseletter"], uppercaseLetter),
  (["ll", "lowercaseletter"], lowercaseLetter),
  (["lt", "titlecaseletter"], titlecaseLetter),
  (["lm", "modifierletter"], modifierLetter),
  (["lo", "otherletter"], otherLetter),
  (["m", "mark", "combiningmark"], mark),
  (["mn", "nonspacingmark"], nonspacingMark),
  (["mc", "spacingmark"], spacingMark),
  (["me", "enclosingmark"], enclosingMark),
  (["n", "number"], number),
  (["nd", "decimalnumber", "digit"], decimalNumber),
  (["nl", "letternumber"], letterNumber),
  (["no", "othernumber"], otherNumber),
  (["p", "punctuation", "punct"], punctuation),
  (["pc", "connectorpunctuation"], connectorPunctuation),
  (["pd", "dashpunctuation"], dashPunctuation),
  (["ps", "openpunctuation"], openPunctuation),
  (["pe", "closepunctuation"], closePunctuation),
  (["pi", "initialpunctuation"], initialPunctuation),
  (["pf", "finalpunctuation"], finalPunctuation),
  (["po", "otherpunctuation"], otherPunctuation),
  (["s", "symbol"], symbol),
  (["sm", "mathsymbol"], mathSymbol),
  (["sc", "currencysymbol"], currencySymbol),
  (["sk", "modifiersymbol"], modifierSymbol),
  (["so", "othersymbol"], otherSymbol),
  (["z", "separator"], separator),
  (["zs", "spaceseparator"], spaceSeparator),
  (["zl", "lineseparator"], lineSeparator),
  (["zp", "paragraphseparator"], paragraphSeparator),
  (["c", "other"], other),
  (["cc", "control", "cntrl"], control),
  (["cf", "format"], format),
  (["co", "privateuse"], privateUse),
  (["cn", "unassigned"], unassigned)]

/-- Properties that a character has or has not, under all of their names. -/
def binaryProperties : List (List String × CodeSet) := [
  (["asciihexdigit", "ahex"], asciiHexDigit),
  (["alphabetic", "alpha"], alphabetic),
  (["bidicontrol", "bidic"], bidiControl),
  (["bidimirrored", "bidim"], bidiMirrored),
  (["caseignorable", "ci"], caseIgnorable),
  (["cased"], cased),
  (["changeswhencasefolded", "cwcf"], changesWhenCasefolded),
  (["changeswhencasemapped", "cwcm"], changesWhenCasemapped),
  (["changeswhenlowercased", "cwl"], changesWhenLowercased),
  (["changeswhentitlecased", "cwt"], changesWhenTitlecased),
  (["changeswhenuppercased", "cwu"], changesWhenUppercased),
  (["dash"], dash),
  (["defaultignorablecodepoint", "di"], defaultIgnorable),
  (["deprecated", "dep"], deprecated),
  (["diacritic", "dia"], diacritic),
  (["emoji"], emoji),
  (["emojicomponent", "ecomp"], emojiComponent),
  (["emojimodifier", "emod"], emojiModifier),
  (["emojimodifierbase", "ebase"], emojiModifierBase),
  (["emojipresentation", "epres"], emojiPresentation),
  (["extendedpictographic", "extpict"], extendedPictographic),
  (["extender", "ext"], extender),
  (["graphemebase", "grbase"], graphemeBase),
  (["graphemeextend", "grext"], graphemeExtend),
  (["graphemelink", "grlink"], graphemeLink),
  (["hexdigit", "hex"], hexDigit),
  (["hyphen"], hyphen),
  (["idsbinaryoperator", "idsb"], idsBinaryOperator),
  (["idstrinaryoperator", "idst"], idsTrinaryOperator),
  (["idsunaryoperator", "idsu"], idsUnaryOperator),
  (["idcompatmathcontinue"], idCompatMathContinue),
  (["idcompatmathstart"], idCompatMathStart),
  (["idcontinue", "idc"], idContinue),
  (["idstart", "ids"], idStart),
  (["ideographic", "ideo"], ideographic),
  (["joincontrol", "joinc"], joinControl),
  (["logicalorderexception", "loe"], logicalOrderException),
  (["lowercase", "lower"], lowercase),
  (["math"], math),
  (["modifiercombiningmark", "mcm"], modifierCombiningMark),
  (["noncharactercodepoint", "nchar"], noncharacter),
  (["otheralphabetic", "oalpha"], otherAlphabetic),
  (["otherdefaultignorablecodepoint", "odi"], otherDefaultIgnorable),
  (["othergraphemeextend", "ogrext"], otherGraphemeExtend),
  (["otheridcontinue", "oidc"], otherIdContinue),
  (["otheridstart", "oids"], otherIdStart),
  (["otherlowercase", "olower"], otherLowercase),
  (["othermath", "omath"], otherMath),
  (["otheruppercase", "oupper"], otherUppercase),
  (["patternsyntax", "patsyn"], patternSyntax),
  (["patternwhitespace", "patws"], patternWhiteSpace),
  (["prependedconcatenationmark", "pcm"], prependedConcatenationMark),
  (["quotationmark", "qmark"], quotationMark),
  (["radical"], radical),
  (["regionalindicator", "ri"], regionalIndicator),
  (["sentenceterminal", "sterm"], sentenceTerminal),
  (["softdotted", "sd"], softDotted),
  (["terminalpunctuation", "term"], terminalPunctuation),
  (["unifiedideograph", "uideo"], unifiedIdeograph),
  (["uppercase", "upper"], uppercase),
  (["variationselector", "vs"], variationSelector),
  (["whitespace", "wspace", "space"], whiteSpace),
  (["xidcontinue", "xidc"], xidContinue),
  (["xidstart", "xids"], xidStart)]

/-- Names are compared in lower case, without spaces, hyphens and underscores, and without a
leading `is`. The name `isc` is kept whole: it belongs to a property of its own. -/
def looseName (name : String) : String :=
  let chars := name.toList
  let marked := (chars.take 2).map Char.toLower = ['i', 's']
  let body := if marked then chars.drop 2 else chars
  let kept := body.filter fun c => !(c == ' ' || c == '_' || c == '-') && c.toNat < 0x80
  let loose := kept.map Char.toLower
  if marked ∧ loose = ['c'] then "isc" else String.ofList loose

def named? (table : List (List String × CodeSet)) (name : String) : Option CodeSet :=
  (table.find? fun entry => entry.1.contains name).map (·.2)

/-- The property with a given name: a binary property, a general category or a script. -/
def property? (name : String) : Option CodeSet :=
  let loose := looseName name
  (named? binaryProperties loose).or <| (named? categories loose).or (named? Script.all loose)

/-- What the versions up to a given one contain. -/
def age? (name : String) : Option CodeSet :=
  let older := versions.takeWhile fun entry => !entry.1.contains name
  versions[older.length]?.map fun entry => .unions (entry.2 :: older.map (·.2))

/-- Properties with values, under all of their names, with the look-up of their values. -/
def valuedProperties : List (List String × (String → Option CodeSet)) := [
  (["generalcategory", "gc"], named? categories),
  (["script", "sc"], named? Script.all),
  (["scriptextensions", "scx"], Script.extension?),
  (["age"], age?),
  (["graphemeclusterbreak", "gcb"], named? clusterBreaks),
  (["wordbreak", "wb"], named? wordBreaks),
  (["sentencebreak", "sb"], named? sentenceBreaks)]

/-- The characters whose property `property` has the given value. -/
def propertyValue? (property value : String) : Option CodeSet := do
  let entry ← valuedProperties.find? (·.1.contains (looseName property))
  entry.2 (looseName value)

/-- Adds all case variants of all members. -/
def closeUnderCase (s : CodeSet) : CodeSet :=
  s.union (.ofCodes ((caseOrbits.filter (·.any s.contains)).flatten))

def hasCaseVariants (c : Char) : Bool := caseOrbits.any (·.contains c.toNat)

end PatternMachine.Unicode

import PatternMachine.Text.Spelling

/-!
# Look-around assertions

Assertions that regular expressions make about the characters on both sides of a position.
-/

namespace PatternMachine

inductive Look where
  | start
  | stop
  | startLF
  | endLF
  | startCRLF
  | endCRLF
  | wordAscii
  | wordAsciiNegate
  | wordUnicode
  | wordUnicodeNegate
  | wordStartAscii
  | wordEndAscii
  | wordStartUnicode
  | wordEndUnicode
  | wordStartHalfAscii
  | wordEndHalfAscii
  | wordStartHalfUnicode
  | wordEndHalfUnicode
  deriving DecidableEq, Repr

namespace Look

def name : Look → String
  | start => "Start"
  | stop => "End"
  | startLF => "StartLF"
  | endLF => "EndLF"
  | startCRLF => "StartCRLF"
  | endCRLF => "EndCRLF"
  | wordAscii => "WordAscii"
  | wordAsciiNegate => "WordAsciiNegate"
  | wordUnicode => "WordUnicode"
  | wordUnicodeNegate => "WordUnicodeNegate"
  | wordStartAscii => "WordStartAscii"
  | wordEndAscii => "WordEndAscii"
  | wordStartUnicode => "WordStartUnicode"
  | wordEndUnicode => "WordEndUnicode"
  | wordStartHalfAscii => "WordStartHalfAscii"
  | wordEndHalfAscii => "WordEndHalfAscii"
  | wordStartHalfUnicode => "WordStartHalfUnicode"
  | wordEndHalfUnicode => "WordEndHalfUnicode"

def all : List Look :=
  [start, stop, startLF, endLF, startCRLF, endCRLF, wordAscii, wordAsciiNegate, wordUnicode,
    wordUnicodeNegate, wordStartAscii, wordEndAscii, wordStartUnicode, wordEndUnicode,
    wordStartHalfAscii, wordEndHalfAscii, wordStartHalfUnicode, wordEndHalfUnicode]

/-- The assertion with a given name. -/
def named? (name : String) : Option Look := all.find? (·.name == name)

end Look

end PatternMachine

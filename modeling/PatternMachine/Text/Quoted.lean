import PatternMachine.Unicode.Derived

/-!
# Quoted text

Characters are written in single quotes and strings in double quotes. A quote, a backslash and the
usual controls are escaped by a letter; combining characters, which would merge with what stands
before them, and characters without a visible form are escaped by their code point.
-/

namespace PatternMachine.Text

/-- Lower-case hexadecimal digits, none of them superfluous. -/
def hex (n : Nat) : String := String.ofList (Nat.toDigits 16 n)

/-- Hexadecimal digits padded with zeros to a given width. -/
def hexPadded (width n : Nat) : String :=
  let digits := Nat.toDigits 16 n
  String.ofList (List.replicate (width - digits.length) '0' ++ digits)

def escape (quote c : Char) : String :=
  if c = '\x00' then "\\0"
  else if c = '\t' then "\\t"
  else if c = '\r' then "\\r"
  else if c = '\n' then "\\n"
  else if c = '\\' ∨ c = quote then String.ofList ['\\', c]
  else if Unicode.isCombining c || !Unicode.isVisible c then
    "\\u\x7b" ++ hex c.toNat ++ "\x7d"
  else c.toString

def quoteChar (c : Char) : String := "'" ++ escape '\'' c ++ "'"

def quote (s : String) : String := "\"" ++ String.join (s.toList.map (escape '"')) ++ "\""

end PatternMachine.Text

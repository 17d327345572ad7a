import PatternMachine.Regex.Tree
import PatternMachine.Unicode.Derived

/-!
# Lexemes of regular expressions

Escapes, numbers, flags, group openings and single items of brackets. Every reader takes what is
left of the text and returns what is left behind its lexeme. In verbose mode blanks and comments are
skipped, even inside of lexemes.
-/

namespace PatternMachine.Regex

/-! ### Blanks -/

/-- Drops blanks, and comments up to the ends of their lines. -/
def dropBlanks : (comment : Bool) → List Char → List Char
  | _, [] => []
  | true, c :: rest => dropBlanks (c != '\n') rest
  | false, c :: rest =>
    if Unicode.isWhitespace c then dropBlanks false rest
    else if c = '#' then dropBlanks true rest
    else c :: rest

def skip (verbose : Bool) (s : List Char) : List Char := if verbose then dropBlanks false s else s

/-- The character that a hyphen in brackets is followed by, one comment mark apart. -/
def following? (verbose : Bool) (s : List Char) : Option Char :=
  if verbose then
    match s.dropWhile Unicode.isWhitespace with
    | '#' :: rest => (rest.dropWhile Unicode.isWhitespace).head?
    | rest => rest.head?
  else s.head?

/-- The longest run of certain characters. Blanks between and behind them are skipped. -/
def run (verbose : Bool) (accepts : Char → Bool) : (comment : Bool) → List Char →
    List Char × List Char
  | _, [] => ([], [])
  | true, c :: rest => run verbose accepts (c != '\n') rest
  | false, c :: rest =>
    if verbose && Unicode.isWhitespace c then run verbose accepts false rest
    else if verbose && c == '#' then run verbose accepts true rest
    else if accepts c then
      let (accepted, rest) := run verbose accepts false rest
      (c :: accepted, rest)
    else ([], c :: rest)

/-! ### Numbers -/

def digitValue? (base : Nat) (c : Char) : Option Nat :=
  let n :=
    if '0' ≤ c ∧ c ≤ '9' then c.toNat - '0'.toNat
    else if 'a' ≤ c ∧ c ≤ 'f' then c.toNat - 'a'.toNat + 10
    else if 'A' ≤ c ∧ c ≤ 'F' then c.toNat - 'A'.toNat + 10
    else base
  if n < base then some n else none

def isDigit (base : Nat) (c : Char) : Bool := (digitValue? base c).isSome

def value (base : Nat) (digits : List Char) : Nat :=
  digits.foldl (fun n c => n * base + (digitValue? base c).getD 0) 0

/-- A number of at most 32 bits, with blanks around it. -/
def decimal? (verbose : Bool) (s : List Char) : Option (Nat × List Char) :=
  let (digits, rest) := run verbose (isDigit 10) false (s.dropWhile Unicode.isWhitespace)
  if digits.isEmpty ∨ UInt32.size ≤ value 10 digits then none
  else some (value 10 digits, rest.dropWhile Unicode.isWhitespace)

/-- The bounds of a counted repetition, behind its opening brace. -/
def bounds? (verbose : Bool) (s : List Char) : Option (Nat × Option Nat × List Char) := do
  let (least, rest) ← decimal? verbose (skip verbose s)
  match rest with
  | '}' :: rest => return (least, some least, rest)
  | ',' :: rest =>
    match skip verbose rest with
    | '}' :: rest => return (least, none, rest)
    | rest =>
      let (most, rest) ← decimal? verbose rest
      match rest with
      | '}' :: rest => if least ≤ most then return (least, some most, rest) else none
      | _ => none
  | _ => none

/-- A question mark behind a repetition makes it prefer fewer. -/
def greed : List Char → Bool × List Char
  | '?' :: rest => (false, rest)
  | rest => (true, rest)

/-! ### Escapes -/

def charOfCode? (n : Nat) : Option Char := if n.isValidChar then some (Char.ofNat n) else none

/-- Exactly as many hexadecimal digits as asked for. -/
def hexDigits? (verbose : Bool) : Nat → List Char → Option (List Char × List Char)
  | 0, s => some ([], s)
  | _ + 1, [] => none
  | n + 1, c :: rest =>
    if isDigit 16 c then do
      let (digits, rest) ← hexDigits? verbose n (skip verbose rest)
      return (c :: digits, rest)
    else none

/-- A code point, either in braces or with a given number of digits. -/
def codePoint? (verbose : Bool) (width : Nat) (s : List Char) : Option (Atom × List Char) :=
  match skip verbose s with
  | '{' :: rest =>
    match run verbose (isDigit 16) false rest with
    | (digits, '}' :: rest) => do
      if digits.isEmpty then none
      return (.literal ⟨← charOfCode? (value 16 digits), false⟩, skip verbose rest)
    | _ => none
  | rest => do
    let (digits, rest) ← hexDigits? verbose width rest
    return (.literal ⟨← charOfCode? (value 16 digits), width == 2⟩, rest)

/-- What stands before and behind the first occurrence of a mark. -/
def divide? (mark : List Char) (s : List Char) : Option (List Char × List Char) :=
  if mark.isPrefixOf s then some ([], s.drop mark.length)
  else
    match s with
    | [] => none
    | c :: rest => (divide? mark rest).map fun (before, behind) => (c :: before, behind)

/-- A property, as it is named in braces, and whether the name negates it. -/
def propertyName (name : List Char) : PropertyName × Bool :=
  match divide? ['!', '='] name with
  | some (p, v) => (.value (String.ofList p) (String.ofList v), true)
  | none =>
    match (divide? [':'] name).or (divide? ['='] name) with
    | some (p, v) => (.value (String.ofList p) (String.ofList v), false)
    | none => (.single (String.ofList name), false)

def property? (verbose negated : Bool) (s : List Char) : Option (Atom × List Char) :=
  match skip verbose s with
  | [] => none
  | '{' :: rest =>
    match run verbose (· != '}') false rest with
    | (name, '}' :: rest) =>
      let (name, opposite) := propertyName name
      some (.property name (negated != opposite), rest)
    | _ => none
  | c :: rest =>
    if c = '\\' then none
    else some (.property (.single c.toString) negated, skip verbose rest)

def boundaryNamed? : String → Option Assertion
  | "start" => some .wordStart
  | "end" => some .wordEnd
  | "start-half" => some .wordStartHalf
  | "end-half" => some .wordEndHalf
  | _ => none

/-- A word boundary may be followed by the name of its kind. Braces that do not start with a letter
or a hyphen are left to the repetition that they belong to. -/
def boundary? (verbose : Bool) (s : List Char) : Option (Atom × List Char) :=
  match s with
  | '{' :: inside =>
    match skip verbose inside with
    | [] => none
    | c :: rest =>
      if isNameChar c then
        match run verbose isNameChar false (c :: rest) with
        | (name, '}' :: rest) =>
          (boundaryNamed? (String.ofList name)).map fun a => (.assertion a, rest)
        | _ => none
      else some (.assertion .boundary, s)
  | _ => some (.assertion .boundary, s)
where
  isNameChar (c : Char) : Bool := c.isAlpha || c == '-'

/-- All of ASCII but letters, digits and angle brackets may be escaped to stand for itself. -/
def escapable (c : Char) : Bool := c.toNat < 0x80 && !c.isAlphanum && c != '<' && c != '>'

def plain (c : Char) : Atom := .literal ⟨c, false⟩

/-- An escape, behind its backslash. -/
def escape? (verbose : Bool) : List Char → Option (Atom × List Char)
  | [] => none
  | c :: rest =>
    match c with
    | 'x' => codePoint? verbose 2 rest
    | 'u' => codePoint? verbose 4 rest
    | 'U' => codePoint? verbose 8 rest
    | 'p' => property? verbose false rest
    | 'P' => property? verbose true rest
    | 'd' => some (.short .digit false, rest)
    | 's' => some (.short .space false, rest)
    | 'w' => some (.short .word false, rest)
    | 'D' => some (.short .digit true, rest)
    | 'S' => some (.short .space true, rest)
    | 'W' => some (.short .word true, rest)
    | 'a' => some (plain '\x07', rest)
    | 'f' => some (plain '\x0C', rest)
    | 't' => some (plain '\t', rest)
    | 'n' => some (plain '\n', rest)
    | 'r' => some (plain '\r', rest)
    | 'v' => some (plain '\x0B', rest)
    | 'A' => some (.assertion .textStart, rest)
    | 'z' => some (.assertion .textEnd, rest)
    | 'b' => boundary? verbose rest
    | 'B' => some (.assertion .noBoundary, rest)
    | '<' => some (.assertion .wordStart, rest)
    | '>' => some (.assertion .wordEnd, rest)
    | c => if escapable c then some (plain c, rest) else none

/-- An atom outside of brackets. -/
def atom? (verbose : Bool) : List Char → Option (Atom × List Char)
  | [] => none
  | '\\' :: rest => escape? verbose rest
  | '.' :: rest => some (.dot, rest)
  | '^' :: rest => some (.assertion .lineStart, rest)
  | '$' :: rest => some (.assertion .lineEnd, rest)
  | c :: rest => some (plain c, rest)

/-! ### Groups -/

/-- Changes of flags, up to the colon or parenthesis behind them. One hyphen may stand in front of
a flag, and negates those that follow. -/
def flagChanges? (on : Bool) (changes : FlagChanges) : List Char →
    Option (FlagChanges × List Char)
  | [] => none
  | c :: rest =>
    if c = ':' ∨ c = ')' then some (changes, c :: rest)
    else if c = '-' then
      if on ∧ (rest.head?.bind Flag.ofChar?).isSome then flagChanges? false changes rest else none
    else do
      let flag ← Flag.ofChar? c
      if (changes.lookup flag).isSome then none
      else flagChanges? on (changes ++ [(flag, on)]) rest

def isNameStart (c : Char) : Bool := c == '_' || Unicode.isAlphabetic c

def isNameChar (c : Char) : Bool :=
  c == '_' || c == '.' || c == '[' || c == ']' || Unicode.isAlphanumeric c

/-- The name of a group, up to the angle bracket behind it. -/
def groupName? (s : List Char) : Option (String × List Char) :=
  match s.takeWhile (· != '>'), s.dropWhile (· != '>') with
  | c :: name, '>' :: rest =>
    if isNameStart c && name.all isNameChar then some (String.ofList (c :: name), rest) else none
  | _, _ => none

/-- What an opening parenthesis starts: a change of flags for the rest of the group around it, or a
group of its own. -/
inductive Opening where
  | flags (changes : FlagChanges)
  | plain (changes : FlagChanges)
  | capture (name : Option String)

/-- The opening of a group, behind its parenthesis. -/
def opening? (verbose : Bool) (s : List Char) : Option (Opening × List Char) :=
  match skip verbose s with
  | '?' :: 'P' :: '<' :: rest => (groupName? rest).map fun (name, rest) => (.capture name, rest)
  | '?' :: '<' :: rest => (groupName? rest).map fun (name, rest) => (.capture name, rest)
  | '?' :: rest => do
    let (changes, rest) ← flagChanges? true [] rest
    match rest with
    | ':' :: rest => return (.plain changes, rest)
    | _ :: rest => if changes.isEmpty then none else return (.flags changes, rest)
    | [] => none
  | rest => some (.capture none, rest)

/-! ### Brackets -/

/-- Assertions and dots have no meaning within brackets. -/
def Atom.item? : Atom → Option SetTree
  | literal l => some (.literal l)
  | short set negated => some (.short set negated)
  | property name negated => some (.property name negated)
  | _ => none

def Atom.literal? : Atom → Option CharLiteral
  | literal l => some l
  | _ => none

def itemAtom? (verbose : Bool) : List Char → Option (Atom × List Char)
  | [] => none
  | '\\' :: rest => escape? verbose rest
  | c :: rest => some (plain c, rest)

/-- A single item or a range. In front of a bracket or another hyphen a hyphen makes no range. -/
def item? (verbose : Bool) (s : List Char) : Option (SetTree × List Char) := do
  let (first, rest) ← itemAtom? verbose s
  match skip verbose rest with
  | [] => none
  | '-' :: rest =>
    if following? verbose rest = some ']' ∨ following? verbose rest = some '-' then
      return (← first.item?, '-' :: rest)
    else
      let (last, rest) ← itemAtom? verbose (skip verbose rest)
      let first ← first.literal?
      let last ← last.literal?
      if first.char ≤ last.char then return (.range first last, rest) else none
  | rest => return (← first.item?, rest)

/-- A named class, behind its opening bracket. -/
def namedClass? : List Char → Option (SetTree × List Char)
  | ':' :: '^' :: rest => named true rest
  | ':' :: rest => named false rest
  | _ => none
where
  named (negated : Bool) (s : List Char) : Option (SetTree × List Char) :=
    match s.dropWhile (· != ':') with
    | ':' :: ']' :: rest =>
      (NamedClass.named? (String.ofList (s.takeWhile (· != ':')))).map fun set =>
        (.named set negated, rest)
    | _ => none

/-- The start of brackets, behind the opening one: whether they are negated, and the hyphens or the
closing bracket that stand for themselves there. -/
def brackets (verbose : Bool) (s : List Char) : Bool × List SetTree × List Char :=
  match skip verbose s with
  | '^' :: rest => (true, first (skip verbose rest))
  | rest => (false, first rest)
where
  first (s : List Char) : List SetTree × List Char :=
    match run verbose (· == '-') false s with
    | ([], ']' :: rest) => ([.literal ⟨']', false⟩], rest)
    | (hyphens, rest) => (hyphens.map fun c => .literal ⟨c, false⟩, rest)

end PatternMachine.Regex

/-!
# Documents

Configurations are read from JSON. A document keeps of a number whether it is an integer and its
magnitude, and of a string its text, if its escapes denote one: an escape may stand for half of a
surrogate pair, which is no character.
-/

namespace PatternMachine

inductive Document where
  | null
  | bool (value : Bool)
  | integer (negative : Bool) (magnitude : Nat)
  /-- A number with a fraction or an exponent. -/
  | decimal
  | string (text : Option String)
  | array (items : List Document)
  | object (members : List (Option String × Document))

namespace Document

def isBlank (c : Char) : Bool := c == ' ' || c == '\t' || c == '\n' || c == '\r'

def skipBlank (s : List Char) : List Char := s.dropWhile isBlank

/-! ### Numbers -/

/-- The number that the leading digits denote; there must be one. -/
def digits? (s : List Char) : Option (List Char × List Char) :=
  match s.span Char.isDigit with
  | ([], _) => none
  | (ds, rest) => some (ds, rest)

def natOf (digits : List Char) : Nat :=
  digits.foldl (fun n c => n * 10 + (c.toNat - '0'.toNat)) 0

/-- The rest behind a fraction, if there is one. -/
def fraction? : List Char → Option (Bool × List Char)
  | '.' :: s => (digits? s).map fun (_, rest) => (true, rest)
  | s => some (false, s)

/-- The rest behind an exponent, if there is one. -/
def exponent? : List Char → Option (Bool × List Char)
  | c :: s =>
    if c = 'e' ∨ c = 'E' then
      let unsigned := match s with
        | '+' :: t => t
        | '-' :: t => t
        | t => t
      (digits? unsigned).map fun (_, rest) => (true, rest)
    else some (false, c :: s)
  | [] => some (false, [])

/-- A number without superfluous leading zeros. -/
def magnitude? (negative : Bool) (s : List Char) : Option (Document × List Char) := do
  let (ds, s) ← digits? s
  if ds.head? = some '0' ∧ ds ≠ ['0'] then none
  else
    let (hasFraction, s) ← fraction? s
    let (hasExponent, s) ← exponent? s
    return (if hasFraction || hasExponent then decimal else integer negative (natOf ds), s)

/-! ### Strings -/

def hexDigit? (c : Char) : Option Nat :=
  if c.isDigit then some (c.toNat - '0'.toNat)
  else if 'a' ≤ c ∧ c ≤ 'f' then some (c.toNat - 'a'.toNat + 10)
  else if 'A' ≤ c ∧ c ≤ 'F' then some (c.toNat - 'A'.toNat + 10)
  else none

/-- The code of an escape, and the rest behind it. -/
def escape? : List Char → Option (Nat × List Char)
  | '"' :: s => some ('"'.toNat, s)
  | '\\' :: s => some ('\\'.toNat, s)
  | '/' :: s => some ('/'.toNat, s)
  | 'b' :: s => some (0x08, s)
  | 'f' :: s => some (0x0C, s)
  | 'n' :: s => some (0x0A, s)
  | 'r' :: s => some (0x0D, s)
  | 't' :: s => some (0x09, s)
  | 'u' :: a :: b :: c :: d :: s => do
    return ((((← hexDigit? a) * 16 + (← hexDigit? b)) * 16 + (← hexDigit? c)) * 16 +
      (← hexDigit? d), s)
  | _ => none

/-- The codes up to the closing quote; codes may be halves of surrogate pairs. -/
def codes? : Nat → List Char → Option (List Nat × List Char)
  | 0, _ => none
  | _ + 1, [] => none
  | _ + 1, '"' :: s => some ([], s)
  | fuel + 1, '\\' :: s => do
    let (code, s) ← escape? s
    let (codes, s) ← codes? fuel s
    return (code :: codes, s)
  | fuel + 1, c :: s =>
    if c.toNat < 0x20 then none
    else (codes? fuel s).map fun (codes, s) => (c.toNat :: codes, s)

def isHighSurrogate (n : Nat) : Bool := 0xD800 ≤ n && n < 0xDC00

def isLowSurrogate (n : Nat) : Bool := 0xDC00 ≤ n && n < 0xE000

/-- Joins surrogate pairs; a half on its own has no text. -/
def textOf : List Nat → Option (List Char)
  | [] => some []
  | [n] => if isHighSurrogate n || isLowSurrogate n then none else some [Char.ofNat n]
  | n :: m :: rest =>
    if isHighSurrogate n then
      if isLowSurrogate m then
        (textOf rest).map (Char.ofNat (0x10000 + (n - 0xD800) * 0x400 + (m - 0xDC00)) :: ·)
      else none
    else if isLowSurrogate n then none
    else (textOf (m :: rest)).map (Char.ofNat n :: ·)

/-- A string behind its opening quote. -/
def string? (s : List Char) : Option (Option String × List Char) :=
  (codes? (s.length + 1) s).map fun (codes, rest) => ((textOf codes).map String.ofList, rest)

/-! ### Values -/

/-- The rest behind a given word. -/
def word? (word s : List Char) : Option (List Char) :=
  if word.isPrefixOf s then some (s.drop word.length) else none

mutual

/-- A value, blanks before it skipped. Every second call consumes a character, so twice the length
of the text is enough fuel. -/
def value? : Nat → List Char → Option (Document × List Char)
  | 0, _ => none
  | fuel + 1, s =>
    match skipBlank s with
    | '"' :: s => (string? s).map fun (text, rest) => (string text, rest)
    | '[' :: s =>
      match skipBlank s with
      | ']' :: s => some (array [], s)
      | s => (items? fuel s).map fun (items, rest) => (array items, rest)
    | '{' :: s =>
      match skipBlank s with
      | '}' :: s => some (object [], s)
      | s => (members? fuel s).map fun (members, rest) => (object members, rest)
    | '-' :: s => magnitude? true s
    | 'n' :: s => (word? "ull".toList s).map (null, ·)
    | 't' :: s => (word? "rue".toList s).map (bool true, ·)
    | 'f' :: s => (word? "alse".toList s).map (bool false, ·)
    | s => magnitude? false s

/-- One or more items up to the closing bracket. -/
def items? : Nat → List Char → Option (List Document × List Char)
  | 0, _ => none
  | fuel + 1, s => do
    let (item, s) ← value? fuel s
    match skipBlank s with
    | ']' :: s => some ([item], s)
    | ',' :: s => (items? fuel s).map fun (items, rest) => (item :: items, rest)
    | _ => none

/-- One or more members up to the closing brace. -/
def members? : Nat → List Char → Option (List (Option String × Document) × List Char)
  | 0, _ => none
  | fuel + 1, s => do
    let '"' :: s := skipBlank s | none
    let (key, s) ← string? s
    let ':' :: s := skipBlank s | none
    let (value, s) ← value? fuel s
    match skipBlank s with
    | '}' :: s => some ([(key, value)], s)
    | ',' :: s => (members? fuel s).map fun (members, rest) => ((key, value) :: members, rest)
    | _ => none

end

/-- The document that the whole of a text denotes. -/
def parse? (text : String) : Option Document := do
  let s := text.toList
  let (document, rest) ← value? (2 * s.length + 2) s
  if (skipBlank rest).isEmpty then some document else none

end Document

end PatternMachine

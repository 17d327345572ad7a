import PatternMachine.CodeSet

/-!
# Syntax trees of regular expressions

A tree shows a regular expression as it is written. What a part of it means depends on the flags in
force at its place.
-/

namespace PatternMachine.Regex

inductive Flag where
  | ignoreCase
  | multiLine
  | dotMatchesNewLine
  | swapGreed
  | unicode
  | crlf
  | verbose
  deriving DecidableEq, Repr

def Flag.ofChar? : Char → Option Flag
  | 'i' => some ignoreCase
  | 'm' => some multiLine
  | 's' => some dotMatchesNewLine
  | 'U' => some swapGreed
  | 'u' => some unicode
  | 'R' => some crlf
  | 'x' => some verbose
  | _ => none

/-- Flags that are switched on or off, none of them twice. -/
abbrev FlagChanges := List (Flag × Bool)

inductive Assertion where
  | lineStart
  | lineEnd
  | textStart
  | textEnd
  | boundary
  | noBoundary
  | wordStart
  | wordEnd
  | wordStartHalf
  | wordEndHalf
  deriving DecidableEq, Repr

structure CharLiteral where
  char : Char
  /-- Written with two hexadecimal digits, so that it may stand for a byte. -/
  byte : Bool
  deriving DecidableEq, Repr

inductive ShortClass where
  | digit
  | space
  | word
  deriving DecidableEq, Repr

/-- The classes that are named within brackets. -/
inductive NamedClass where
  | alnum
  | alpha
  | ascii
  | blank
  | cntrl
  | digit
  | graph
  | lower
  | print
  | punct
  | space
  | upper
  | word
  | xdigit
  deriving DecidableEq, Repr

namespace NamedClass

def named? : String → Option NamedClass
  | "alnum" => some alnum
  | "alpha" => some alpha
  | "ascii" => some ascii
  | "blank" => some blank
  | "cntrl" => some cntrl
  | "digit" => some digit
  | "graph" => some graph
  | "lower" => some lower
  | "print" => some print
  | "punct" => some punct
  | "space" => some space
  | "upper" => some upper
  | "word" => some word
  | "xdigit" => some xdigit
  | _ => none

def members : NamedClass → CodeSet
  | alnum => ⟨[⟨0x30, 0x39⟩, ⟨0x41, 0x5A⟩, ⟨0x61, 0x7A⟩]⟩
  | alpha => ⟨[⟨0x41, 0x5A⟩, ⟨0x61, 0x7A⟩]⟩
  | ascii => ⟨[⟨0x00, 0x7F⟩]⟩
  | blank => ⟨[⟨0x09, 0x09⟩, ⟨0x20, 0x20⟩]⟩
  | cntrl => ⟨[⟨0x00, 0x1F⟩, ⟨0x7F, 0x7F⟩]⟩
  | digit => ⟨[⟨0x30, 0x39⟩]⟩
  | graph => ⟨[⟨0x21, 0x7E⟩]⟩
  | lower => ⟨[⟨0x61, 0x7A⟩]⟩
  | print => ⟨[⟨0x20, 0x7E⟩]⟩
  | punct => ⟨[⟨0x21, 0x2F⟩, ⟨0x3A, 0x40⟩, ⟨0x5B, 0x60⟩, ⟨0x7B, 0x7E⟩]⟩
  | space => ⟨[⟨0x09, 0x0D⟩, ⟨0x20, 0x20⟩]⟩
  | upper => ⟨[⟨0x41, 0x5A⟩]⟩
  | word => ⟨[⟨0x30, 0x39⟩, ⟨0x41, 0x5A⟩, ⟨0x5F, 0x5F⟩, ⟨0x61, 0x7A⟩]⟩
  | xdigit => ⟨[⟨0x30, 0x39⟩, ⟨0x41, 0x46⟩, ⟨0x61, 0x66⟩]⟩

end NamedClass

/-- A property of characters by its own name, or by that of a property and a value of it. -/
inductive PropertyName where
  | single (name : String)
  | value (property value : String)
  deriving DecidableEq, Repr

/-- What an escape or a single character stands for. -/
inductive Atom where
  | literal (l : CharLiteral)
  | dot
  | assertion (a : Assertion)
  | short (set : ShortClass) (negated : Bool)
  | property (name : PropertyName) (negated : Bool)
  deriving DecidableEq, Repr

inductive SetOperation where
  | intersection
  | difference
  | symmetricDifference
  deriving DecidableEq, Repr

/-- The inside of brackets. -/
inductive SetTree where
  | literal (l : CharLiteral)
  | range (first last : CharLiteral)
  | named (set : NamedClass) (negated : Bool)
  | short (set : ShortClass) (negated : Bool)
  | property (name : PropertyName) (negated : Bool)
  | bracketed (negated : Bool) (inside : SetTree)
  | union (items : List SetTree)
  | operation (op : SetOperation) (left right : SetTree)

inductive GroupKind where
  | capture (index : Nat) (name : Option String)
  | plain (changes : FlagChanges)
  deriving DecidableEq, Repr

inductive Tree where
  | empty
  | flags (changes : FlagChanges)
  | atom (a : Atom)
  | bracketed (negated : Bool) (inside : SetTree)
  | repetition (least : Nat) (most : Option Nat) (greedy : Bool) (body : Tree)
  | group (kind : GroupKind) (body : Tree)
  | concat (parts : List Tree)
  | alternation (branches : List Tree)

namespace SetTree

/-- A union of one item is that item. -/
def ofItems : List SetTree → SetTree
  | [item] => item
  | items => union items

mutual

/-- How deep brackets, unions and operations are nested. -/
def depth : SetTree → Nat
  | bracketed _ inside => inside.depth + 1
  | union [] => 0
  | union (item :: rest) => max item.depth (depths rest) + 1
  | operation _ left right => max left.depth right.depth + 1
  | literal _ => 0
  | range _ _ => 0
  | named _ _ => 0
  | short _ _ => 0
  | property _ _ => 0

def depths : List SetTree → Nat
  | [] => 0
  | item :: rest => max item.depth (depths rest)

end

end SetTree

namespace Tree

def ofParts : List Tree → Tree
  | [] => empty
  | [t] => t
  | parts => concat parts

def ofBranches : List Tree → Tree
  | [t] => t
  | branches => alternation branches

mutual

/-- How deep the constructs that have parts are nested. -/
def depth : Tree → Nat
  | empty => 0
  | flags _ => 0
  | atom _ => 0
  | bracketed _ inside => inside.depth + 1
  | repetition _ _ _ body => body.depth + 1
  | group _ body => body.depth + 1
  | concat parts => depths parts + 1
  | alternation branches => depths branches + 1

def depths : List Tree → Nat
  | [] => 0
  | t :: rest => max t.depth (depths rest)

end

end Tree

end PatternMachine.Regex

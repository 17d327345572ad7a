import PatternMachine.Compilation.Pattern
import PatternMachine.Engine
import PatternMachine.Expr.Pattern
import PatternMachine.Regex.Meaning
import PatternMachine.Regex.Reading

/-!
# Regular expressions

A regular expression is compiled once and then searched for in texts. All positions that a search
reports count bytes.
-/

namespace PatternMachine

structure Regex where
  text : String
  engine : Engine Char

namespace Regex

/-- What a regular expression means, if it is well formed. -/
def expr? (text : String) (config : ParserConfig) : Option Expr := do
  let t ← Tree.read? text.toList
  let (e, _) ← t.expr? (.ofConfig config)
  return e

/-- The pattern of a regular expression. -/
def pattern (text : String) (config : ParserConfig) : Except Rejection (Pattern Char) :=
  match expr? text config with
  | none => .error (.error .badSyntax)
  | some e => e.pattern

def compile (text : String) (config : Config) : Except Rejection Regex := do
  let p ← pattern text config.parser
  let program ← p.compile config.engine.maxInstructions
  return { text, engine := { program, settings := config.engine.toSettings } }

/-! ### Byte offsets -/

/-- The number of bytes that the first `n` characters take. -/
def byteOffset (input : Array Char) (n : Nat) : Nat :=
  (String.ofList (input.toList.take n)).utf8ByteSize

def byteSpan (input : Array Char) (s : Span) : Span :=
  ⟨byteOffset input s.start, byteOffset input s.stop⟩

/-! ### Searching -/

/-- Does the whole text match? -/
def isMatch (r : Regex) (text : String) : Logged Bool := do
  let input := text.toList.toArray
  return (← r.engine.consume input ⟨0, input.size⟩ .whole).isSome

/-- What the match at the start of the text takes, by the order of preference. -/
def leading (r : Regex) (text : String) : Logged (Option String) := do
  let input := text.toList.toArray
  let stop ← r.engine.consume input ⟨0, input.size⟩ .anywhere
  return stop.map fun n => String.ofList (text.toList.take n)

/-- The match at the first of the given positions that has one. Exceeding a limit ends the search
and leaves a warning. -/
def firstMatch (r : Regex) (input : Array Char) : List Nat → Logged (Option Match)
  | [] => return none
  | start :: rest => do
    match ← r.engine.findMatch input ⟨start, input.size⟩ .anywhere with
    | .ok (some found) => return some found
    | .ok none => r.firstMatch input rest
    | .error error =>
      Logged.write .warn ("search for /" ++ r.text ++ "/ aborted: " ++ error.message)
      return none

/-- The range of the leftmost match and those of its capture groups. -/
def captures (r : Regex) (text : String) : Logged (Option (List (Option Span))) := do
  let input := text.toList.toArray
  let found ← r.firstMatch input (List.range (input.size + 1))
  return found.map fun m =>
    some (byteSpan input m.range) :: m.captures.map (·.map (byteSpan input))

/-- The range of the leftmost match. -/
def find (r : Regex) (text : String) : Logged (Option Span) := do
  return (← r.captures text).bind fun ranges => (ranges.head?).join

end Regex

end PatternMachine

import PatternMachine.Machine.Search

/-!
# Engines

An engine is a program with settings. Each call of a matching function starts a search of its own.
-/

namespace PatternMachine

structure Match where
  range : Span
  /-- The range of each capture group, if it took part in the match. -/
  captures : List (Option Span)
  deriving DecidableEq, Repr

structure Engine (E : Type) where
  program : Program E
  settings : Settings := {}

namespace Engine

variable {E : Type}

/-- A search with the settings of the engine, but for the mode. -/
def search (e : Engine E) (input : Array E) (range : Span) (mode : MatchMode) :
    Except Fault (Search E) :=
  Search.prepare e.program input range { e.settings with mode }

def trace (e : Engine E) (text : Unit → String) : Logged Unit :=
  if e.settings.tracing then Logged.write .trace (text ()) else pure ()

/-- The records of a finished run are appended to those written before it. -/
def execute [DecidableEq E] (s : Search E) : Logged Machine := do
  let log ← get
  match s.run { s.start with log } with
  | .next m => set m.log; return m
  | .fault f m => set m.log; throw f

/-- The match at the start of the range, with the ranges of its capture groups. -/
def findMatch [DecidableEq E] [Spelled E] (e : Engine E) (input : Array E) (range : Span)
    (mode : MatchMode) : Logged (Except MatchError (Option Match)) := do
  if e.settings.tracing ∧ ¬(range.start ≤ range.stop ∧ range.stop ≤ input.size) then
    throw .indexOutOfBounds
  e.trace fun _ => "consume: " ++ spell (input.extract range.start range.stop).toList ++
    " (" ++ mode.name ++ ")"
  let m ← execute (← e.search input range mode)
  e.trace fun _ => "result: " ++ m.status.name ++ " at position " ++ toString m.position ++
    " after " ++ toString m.cycles ++ " cycles"
  match m.exceeded with
  | some error => return .error error
  | none =>
    if m.status = .accepted then return .ok (some ⟨⟨range.start, m.position⟩, m.captures⟩)
    else return .ok none

/-- The end of the match, if there is one. -/
def tryConsume [DecidableEq E] [Spelled E] (e : Engine E) (input : Array E) (range : Span)
    (mode : MatchMode) : Logged (Except MatchError (Option Nat)) := do
  return (← e.findMatch input range mode).map (Option.map (·.range.stop))

/-- Exceeding a limit counts as no match and leaves a warning. -/
def consume [DecidableEq E] [Spelled E] (e : Engine E) (input : Array E) (range : Span)
    (mode : MatchMode) : Logged (Option Nat) := do
  match ← e.tryConsume input range mode with
  | .ok stop => return stop
  | .error error =>
    Logged.write .warn ("matching aborted: " ++ error.message)
    return none

/-- Consumes in the whole input, in the mode of the engine. -/
def consumeAll [DecidableEq E] [Spelled E] (e : Engine E) (input : Array E) :
    Logged (Option Nat) :=
  e.consume input ⟨0, input.size⟩ e.settings.mode

end Engine

end PatternMachine

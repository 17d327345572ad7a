import PatternMachine.Compilation.Construct

/-!
# Compiling patterns

Every pattern becomes a fixed sequence of statements around those of its parts. The program of a
single pattern accepts behind the code of the pattern.
-/

namespace PatternMachine

namespace Compilation

variable {E : Type} [DecidableEq E]

def emitLiteral : List E → Emission E
  | [], c => .ok c
  | e :: rest, c => do emitLiteral rest (← c.emit (.matchElement e))

def emitPredicate (c : Compilation E) (p : E → Bool) : Outcome (Compilation E) :=
  let (register, assembler) := c.assembler.addPredicate p
  { c with assembler }.emit (.matchPredicate register)

def emitConsumer (c : Compilation E) (f : ConsumeFunction E) : Outcome (Compilation E) :=
  let (register, assembler) := c.assembler.addConsumeFunction f
  { c with assembler }.emit (.consumeBy register)

/-- The end of the range is where no element follows. -/
def emitAnchor (c : Compilation E) : Anchor → Outcome (Compilation E)
  | .start => c.emitConsumer Pattern.startOfInput
  | .stop => c.lookingAhead .negative fun c => c.emit (.consume 1)

def emitCapture (c : Compilation E) (index : Nat) (body : Emission E) : Outcome (Compilation E) :=
  match c.captures[index]? with
  | none => .error (.fault .indexOutOfBounds)
  | some register => do
    let c ← c.emit (.beginCapture register)
    let c ← body c
    c.emit (.endCapture register)

def emitReference (c : Compilation E) (name : String) : Outcome (Compilation E) := do
  let (entry, c) ← c.entry name
  c.emit (.call entry)

def emitBackreference (c : Compilation E) (index : Nat) : Outcome (Compilation E) :=
  match c.captures[index]? with
  | none => .error (.error (.invalidBackreference index))
  | some register => c.emit (.backreference register)

def emitRepetition (c : Compilation E) (amount : Amount) (preference : Preference)
    (nullable : Bool) (body : Emission E) : Outcome (Compilation E) :=
  match amount.most with
  | some most =>
    if most < amount.least then
      .error (.error (.unsupported (.boundsReversed amount.least most)))
    else go
  | none => go
where
  go : Outcome (Compilation E) :=
    match preference with
    | .greedy => c.repeated amount.least amount.most true nullable body
    | .reluctant => c.repeated amount.least amount.most false nullable body
    | .possessive => c.atomically (·.repeated amount.least amount.most true nullable body)

end Compilation

namespace Pattern

open Compilation

variable {E : Type} [DecidableEq E]

mutual

/-- The code of a pattern. The size is checked in front of every pattern, so that a program that
grows too large is given up early. -/
def emit : Pattern E → Emission E
  | empty, c => c.checkSize
  | any, c => do (← c.checkSize).emit (.consume 1)
  | element e, c => do (← c.checkSize).emit (.matchElement e)
  | literal elements, c => do emitLiteral elements (← c.checkSize)
  | predicate p, c => do (← c.checkSize).emitPredicate p
  | consumer f, c => do (← c.checkSize).emitConsumer f
  | concat parts, c => do emitParts parts (← c.checkSize)
  | alternation branches, c => do
    let (done, c) := (← c.checkSize).makeToken
    let c ← emitBranches done branches c
    c.label done
  | repetition amount preference body, c => do
    (← c.checkSize).emitRepetition amount preference body.canMatchEmpty body.emit
  | capture index _ body, c => do (← c.checkSize).emitCapture index body.emit
  | reference name, c => do (← c.checkSize).emitReference name
  | lookahead kind body, c => do (← c.checkSize).lookingAhead kind body.emit
  | atomic body, c => do (← c.checkSize).atomically body.emit
  | anchor a, c => do (← c.checkSize).emitAnchor a
  | backreference index, c => do (← c.checkSize).emitBackreference index

def emitParts : List (Pattern E) → Emission E
  | [], c => .ok c
  | p :: rest, c => do emitParts rest (← p.emit c)

/-- All branches but the last are left by a jump. Without branches nothing ever matches. -/
def emitBranches (done : Token) : List (Pattern E) → Emission E
  | [], c => c.emit .fail
  | [p], c => p.emit c
  | p :: q :: rest, c => do emitBranches done (q :: rest) (← c.branch done p.emit)

end

/-- The program of a pattern, with at most `limit` instructions. -/
def compile (p : Pattern E) (limit : Nat) : Outcome (Program E) := do
  let c ← makeCaptures p.captureCount (.start [] limit)
  let c ← p.emit c
  let c ← c.emit .accept
  let c ← c.checkSize
  lift c.assembler.assemble

end Pattern

end PatternMachine

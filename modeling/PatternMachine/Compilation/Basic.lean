import PatternMachine.Assembler
import PatternMachine.Error
import PatternMachine.Grammar

/-!
# Programs under construction

Compiling appends statements to an assembler. Beside it stand the registers of the capture groups,
the entry points of the productions met so far, and the productions that still wait for their code.
-/

namespace PatternMachine

/-- A production that is called and has no code yet. -/
structure PendingProduction (E : Type) where
  name : String
  entry : Token
  body : Pattern E

structure Compilation (E : Type) where
  assembler : Assembler E
  /-- What references can refer to. -/
  productions : List (String × Pattern E)
  /-- The largest number of instructions allowed. -/
  limit : Nat
  /-- The register of each capture group. -/
  captures : Array CaptureRegister
  /-- The entry point of each production met so far. -/
  entries : List (String × Token)
  /-- The latest one first. -/
  pending : List (PendingProduction E)
  /-- The register set by all progress checks; the instruction behind each check consumes it. -/
  progress : Option BoolRegister

namespace Compilation

variable {E : Type}

abbrev Outcome := Except Rejection

/-- An emission takes a compilation further, or rejects it. -/
abbrev Emission (E : Type) := Compilation E → Outcome (Compilation E)

/-- Addresses bound the size of every program, whatever the limit. -/
def start (productions : List (String × Pattern E)) (limit : Nat) : Compilation E :=
  { assembler := .empty
    productions
    limit := min limit Operand.maxPayload
    captures := #[]
    entries := []
    pending := []
    progress := none }

def lift {α : Type} (result : Except Fault α) : Outcome α := result.mapError .fault

def size (c : Compilation E) : Nat := c.assembler.size

def checkSize (c : Compilation E) : Outcome (Compilation E) :=
  if c.limit < c.size then .error (.error .tooLarge) else .ok c

def emit [DecidableEq E] (c : Compilation E) (s : Statement E) : Outcome (Compilation E) := do
  return { c with assembler := ← lift (c.assembler.emit s) }

def makeToken (c : Compilation E) : Token × Compilation E :=
  let (token, assembler) := c.assembler.makeToken
  (token, { c with assembler })

def label (c : Compilation E) (token : Token) : Outcome (Compilation E) := do
  return { c with assembler := ← lift (c.assembler.label token) }

/-- Makes registers for `n` more capture groups. -/
def makeCaptures : Nat → Compilation E → Outcome (Compilation E)
  | 0, c => .ok c
  | n + 1, c => do
    let (register, assembler) ← lift c.assembler.makeCaptureRegister
    makeCaptures n { c with assembler, captures := c.captures.push register }

def makePosition (c : Compilation E) : Outcome (PositionRegister × Compilation E) := do
  let (register, assembler) ← lift c.assembler.makePositionRegister
  return (register, { c with assembler })

/-- The register of progress checks, made when it is first needed. -/
def progressRegister (c : Compilation E) : Outcome (BoolRegister × Compilation E) :=
  match c.progress with
  | some register => .ok (register, c)
  | none => do
    let (register, assembler) ← lift c.assembler.makeBoolRegister
    return (register, { c with assembler, progress := some register })

/-- The entry point of a production, which is put on the waiting list when it is first met. -/
def entry (c : Compilation E) (name : String) : Outcome (Token × Compilation E) :=
  match c.entries.lookup name with
  | some token => .ok (token, c)
  | none =>
    match c.productions.lookup name with
    | none => .error (.error (.undefinedProduction name))
    | some body =>
      let (token, c) := c.makeToken
      .ok (token, { c with
        entries := (name, token) :: c.entries
        pending := ⟨name, token, body⟩ :: c.pending })

end Compilation

end PatternMachine

import PatternMachine.Error
import PatternMachine.Log
import PatternMachine.Machine.Registers
import PatternMachine.Machine.Stack

/-!
# The state of the machine

Alternatives are explored depth first. A save point says where to resume when an alternative fails.
Changes of registers and of the call stack are noted on a trail, and resuming undoes the part of
the trail that is younger than the save point.
-/

namespace PatternMachine

inductive Status where
  | inProgress
  | accepted
  | failed
  deriving DecidableEq, Repr

def Status.name : Status → String
  | inProgress => "InProgress"
  | accepted => "Accept"
  | failed => "Fail"

structure SavePoint where
  resume : Address
  /-- The position to return to; `none` leaves it where it is. -/
  position : Option Nat
  callDepth : Nat
  trailEnd : Nat
  deriving DecidableEq, Repr

/-- One change, with what it takes to reverse it. -/
inductive Undo where
  | bool (register : BoolRegister) (old : Bool)
  | position (register : PositionRegister) (old : Nat)
  | beginCapture (register : CaptureRegister)
  | endCapture (register : CaptureRegister) (start : Nat) (old : Option Span)
  | call
  | ret (address : Address)
  deriving DecidableEq, Repr

structure Machine where
  pc : Address
  position : Nat
  registers : Registers
  savePoints : Stack SavePoint
  callStack : Stack Address
  trail : Stack Undo
  status : Status
  cycles : Nat
  abortReason : Option String
  /-- The limit that ended the run. -/
  exceeded : Option MatchError
  log : Log

/-- A fault ends a run; what was done before it can still be seen. -/
inductive Step where
  | next (m : Machine)
  | fault (f : Fault) (m : Machine)

namespace Machine

def captures (m : Machine) : List (Option Span) := m.registers.captures.toList.map (·.value)

def write (m : Machine) (level : Level) (text : String) : Machine :=
  { m with log := m.log.push ⟨level, text⟩ }

/-- Goes on to the next instruction. -/
def advance (m : Machine) : Machine := { m with pc := m.pc.next }

/-- Notes a change. Without a save point there is nothing to return to. -/
def note (m : Machine) (u : Undo) : Machine :=
  if m.savePoints.isEmpty then m else { m with trail := m.trail.push u }

def dropUnusedTrail (m : Machine) : Machine :=
  if m.savePoints.isEmpty then { m with trail := .empty } else m

def undo (m : Machine) : Undo → Machine
  | .bool register old => { m with registers := m.registers.setBool register old }
  | .position register old => { m with registers := m.registers.setPosition register old }
  | .beginCapture register => { m with registers := m.registers.dropCapture register }
  | .endCapture register start old =>
    { m with registers := m.registers.reopenCapture register start old }
  | .call => { m with callStack := ((m.callStack.pop?).map (·.2)).getD .empty }
  | .ret address => { m with callStack := m.callStack.push address }

/-- Undoes the latest changes, the latest first. -/
def undoLatest : Nat → Machine → Machine
  | 0, m => m
  | n + 1, m =>
    match m.trail.pop? with
    | none => m
    | some (u, trail) => undoLatest n ({ m with trail }.undo u)

def unwind (m : Machine) (trailEnd : Nat) : Machine := undoLatest (m.trail.depth - trailEnd) m

/-- Resumes at the latest save point, or fails if there is none. -/
def backtrack (m : Machine) : Step :=
  match m.savePoints.pop? with
  | none => .next { m with status := .failed }
  | some (sp, savePoints) =>
    let m := { m with savePoints }.unwind sp.trailEnd
    if m.callStack.depth = sp.callDepth then
      .next { m with pc := sp.resume, position := sp.position.getD m.position }.dropUnusedTrail
    else .fault .callDepthChanged m

/-- Consumes one element if `holds` says so. -/
def consumeIf (m : Machine) (holds : Bool) : Step :=
  if holds then .next { m with position := m.position + 1 }.advance else m.backtrack

/-- Sets a bool register and goes on. -/
def assign (m : Machine) (register : BoolRegister) (value : Bool) : Step :=
  match m.registers.bools[register.index]? with
  | none => .fault .indexOutOfBounds m
  | some old =>
    .next ({ m with registers := m.registers.setBool register value }.note
      (.bool register old)).advance

/-- The save points below the latest one that resumes at `target`. -/
def clearThrough (target : Address) (s : Stack SavePoint) : Option (Stack SavePoint) :=
  go s.items s.depth s.depth_eq
where
  go : (items : List SavePoint) → (depth : Nat) → depth = items.length → Option (Stack SavePoint)
    | [], _, _ => none
    | sp :: rest, depth, h =>
      if sp.resume = target then some ⟨rest, depth - 1, by simp [h]⟩
      else go rest (depth - 1) (by simp [h])

end Machine

end PatternMachine

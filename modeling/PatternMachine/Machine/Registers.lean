import PatternMachine.Program.Basic

/-!
# The registers a search writes to

Bools, positions and captures. A capture group that is entered again before it is left has several
starts at the same time; each end closes the latest start.
-/

namespace PatternMachine

structure Capture where
  /-- Starts of the activations that are still open, the latest first. -/
  opened : List Nat
  value : Option Span
  deriving DecidableEq, Repr, Inhabited

structure Registers where
  bools : Array Bool
  positions : Array Nat
  captures : Array Capture
  deriving DecidableEq, Repr

namespace Registers

/-- Position registers start at `sentinel`. -/
def initial (counts : RegisterCounts) (sentinel : Nat) : Registers :=
  { bools := .replicate counts.bools false
    positions := .replicate counts.positions sentinel
    captures := .replicate counts.captures ⟨[], none⟩ }

def setBool (r : Registers) (register : BoolRegister) (value : Bool) : Registers :=
  { r with bools := r.bools.setIfInBounds register.index value }

def setPosition (r : Registers) (register : PositionRegister) (value : Nat) : Registers :=
  { r with positions := r.positions.setIfInBounds register.index value }

def modifyCapture (r : Registers) (register : CaptureRegister) (f : Capture → Capture) :
    Registers :=
  { r with captures := r.captures.modify register.index f }

/-- Opens an activation of a group. -/
def openCapture (r : Registers) (register : CaptureRegister) (start : Nat) : Registers :=
  r.modifyCapture register fun c => { c with opened := start :: c.opened }

/-- Forgets the latest activation. -/
def dropCapture (r : Registers) (register : CaptureRegister) : Registers :=
  r.modifyCapture register fun c => { c with opened := c.opened.tail }

/-- Closes the latest activation, which gives the group its value. -/
def closeCapture (r : Registers) (register : CaptureRegister) (value : Span) : Registers :=
  r.modifyCapture register fun c => ⟨c.opened.tail, some value⟩

/-- Takes back `closeCapture`. -/
def reopenCapture (r : Registers) (register : CaptureRegister) (start : Nat)
    (old : Option Span) : Registers :=
  r.modifyCapture register fun c => ⟨start :: c.opened, old⟩

end Registers

end PatternMachine

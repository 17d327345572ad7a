import PatternMachine.Instruction.Basic

/-!
# Forms of instructions

One constructor per opcode. The targets of jumps are optional, for they may be filled in later.
-/

namespace PatternMachine.Instruction

/-- An instruction from its parts; the payload is stored before the condition. -/
def make {kind : PayloadKind} (opcode : Opcode) (payload : Option (Payload kind))
    (condition : Option BoolRegister) : Except Fault Instruction := do
  let operand ←
    match payload with
    | some p => Operand.empty.setPayload p
    | none => pure .empty
  let operand ←
    match condition with
    | some c => operand.setCondition c
    | none => pure operand
  encode opcode operand

/-- An instruction of the opcode alone. -/
def bare (opcode : Opcode) : Except Fault Instruction := encode opcode .empty

def nop (comment : Option StringRegister) := make .nop comment none

def branch (target : Option Address) := make .branch target none

def condBranch (condition : BoolRegister) (target : Option Address) :=
  make .condBranch target (some condition)

def save (target : Option Address) := make .save target none

def saveAddress (target : Option Address) := make .saveAddress target none

def clear := bare .clear

def clearThrough (target : Option Address) := make .clearThrough target none

def restore := bare .restore

def call (target : Option Address) := make .call target none

def ret := bare .ret

def accept := bare .accept

def fail := bare .fail

def abort (reason : Option StringRegister) := make .abort reason none

def consume (distance : Distance) := make .consume (some distance) none

def consumeBy (function : ConsumeRegister) := make .consumeBy (some function) none

def matchElement (element : ElementRegister) := make .matchElement (some element) none

def matchPredicate (predicate : PredicateRegister) := make .matchPredicate (some predicate) none

def assertion (condition : BoolRegister) (element : ElementRegister) :=
  make .assertion (some element) (some condition)

def movePosition (position : PositionRegister) := make .movePosition (some position) none

def comparePosition (condition : BoolRegister) (position : PositionRegister) :=
  make .comparePosition (some position) (some condition)

def beginCapture (capture : CaptureRegister) := make .beginCapture (some capture) none

def endCapture (capture : CaptureRegister) := make .endCapture (some capture) none

def backreference (capture : CaptureRegister) := make .backreference (some capture) none

def print (message : StringRegister) := make .print (some message) none

end PatternMachine.Instruction

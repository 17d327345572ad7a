import PatternMachine.Instruction.Operand

/-!
# Instructions

An instruction is a 64-bit word: eight bits of opcode above an operand. Words come from outside
too, so that decoding checks what it reads.
-/

namespace PatternMachine

structure Instruction where
  word : BitVec 64
  deriving DecidableEq, Repr, Inhabited

namespace Instruction

/-- What one step in the opcode field is worth. -/
@[noinline] def opcodeUnit : Nat := 1 <<< 56

/-- The word of an opcode byte above an operand. -/
def pack (byte : Nat) (operand : Operand) (h : byte < 256) : Instruction :=
  ⟨.ofNatLT (byte * opcodeUnit + operand.word.toNat) (by
    have := operand.word.isLt
    simp only [opcodeUnit, Nat.one_shiftLeft]
    omega)⟩

def encode (opcode : Opcode) (operand : Operand) : Except Fault Instruction :=
  if opcode = .invalid then .error .opcodeNotEncodable
  else .ok (pack opcode.number operand (by have := opcode.number_lt; omega))

def opcodeByte (i : Instruction) : Nat := i.word.toNat / opcodeUnit

theorem opcodeByte_lt (i : Instruction) : i.opcodeByte < 256 := by
  have := i.word.isLt
  simp only [opcodeByte, opcodeUnit, Nat.one_shiftLeft]
  omega

def opcode (i : Instruction) : Except Fault Opcode :=
  match Opcode.ofNumber? i.opcodeByte with
  | some opcode => .ok opcode
  | none => .error (.opcodeUnknown i.opcodeByte)

def operand (i : Instruction) : Operand :=
  ⟨.ofNatLT (i.word.toNat % opcodeUnit) (Nat.mod_lt _ (by decide))⟩

/-- The same opcode with another operand. -/
def setOperand (i : Instruction) (operand : Operand) : Instruction :=
  pack i.opcodeByte operand i.opcodeByte_lt

/-- The payload, which must be of the kind that the opcode takes. -/
def payload (i : Instruction) (kind : PayloadKind) : Except Fault (Payload kind) := do
  let opcode ← i.opcode
  if opcode.payloadKind? = some kind then i.operand.payload kind
  else throw (.payloadKindRefused opcode kind)

def payload? (i : Instruction) (kind : PayloadKind) : Except Fault (Option (Payload kind)) :=
  if i.operand.hasPayload then some <$> i.payload kind else pure none

def condition (i : Instruction) : Except Fault BoolRegister := do
  let opcode ← i.opcode
  if opcode.takesCondition then i.operand.condition else throw (.conditionRefused opcode)

/-- The payload if the opcode takes one of this kind and it is present. -/
def payloadOf? (i : Instruction) (kind : PayloadKind) :
    Except Fault (Option (Payload kind)) := do
  if (← i.opcode).payloadKind? = some kind then i.payload? kind else pure none

def target? (i : Instruction) : Except Fault (Option Address) := i.payloadOf? .address

def string? (i : Instruction) : Except Fault (Option StringRegister) := i.payloadOf? .string

/-- The mnemonic, the condition if there is one, the payload if there is one. -/
def text (i : Instruction) : Except Fault String := do
  let opcode ← i.opcode
  let condition ←
    if opcode.takesCondition && i.operand.hasCondition then
      pure (" " ++ (← i.operand.condition).text)
    else pure ""
  let payload ←
    match opcode.payloadKind? with
    | some kind =>
      if i.operand.hasPayload then pure (" " ++ (← i.payload kind).text) else pure ""
    | none => pure ""
  return opcode.mnemonic ++ condition ++ payload

end Instruction

end PatternMachine

import PatternMachine.Fault

/-!
# Operands

The low 56 bits of an instruction: 40 bits of payload below 16 bits of condition. Each field holds
its value plus one, and zero stands for an absent value.
-/

namespace PatternMachine

structure Operand where
  word : BitVec 56
  deriving DecidableEq, Repr

namespace Operand

def payloadBits : Nat := 40

def conditionBits : Nat := 16

/-- What one step in the condition field is worth. -/
@[noinline] def conditionUnit : Nat := 1 <<< payloadBits

@[noinline] def maxPayload : Nat := (1 <<< payloadBits) - 2

@[noinline] def maxCondition : Nat := (1 <<< conditionBits) - 2

def empty : Operand := ⟨0⟩

/-- An operand made of raw bits, none of which may belong to the opcode. -/
def ofBits (bits : Nat) : Except Fault Operand :=
  if h : bits < 2 ^ 56 then .ok ⟨.ofNatLT bits h⟩ else .error .operandTooWide

def payloadField (o : Operand) : Nat := o.word.toNat % conditionUnit

def conditionField (o : Operand) : Nat := o.word.toNat / conditionUnit

def hasPayload (o : Operand) : Bool := o.payloadField != 0

def hasCondition (o : Operand) : Bool := o.conditionField != 0

theorem add_payload_lt {o : Operand} {n : Nat} (free : ¬o.hasPayload) (fits : n ≤ maxPayload) :
    o.word.toNat + (n + 1) < 1 <<< 56 := by
  have h := o.word.isLt
  simp only [hasPayload, payloadField, conditionUnit, payloadBits, Nat.one_shiftLeft, bne_iff_ne,
    Decidable.not_not] at free
  simp only [maxPayload, payloadBits, Nat.one_shiftLeft] at fits
  omega

theorem add_condition_lt {o : Operand} {n : Nat} (free : ¬o.hasCondition)
    (fits : n ≤ maxCondition) : o.word.toNat + (n + 1) * conditionUnit < 1 <<< 56 := by
  simp only [hasCondition, conditionField, conditionUnit, payloadBits, Nat.one_shiftLeft,
    bne_iff_ne, Decidable.not_not] at free
  simp only [maxCondition, conditionBits, conditionUnit, payloadBits, Nat.one_shiftLeft] at *
  omega

/-- Fills the empty payload field. -/
def setPayload {kind : PayloadKind} (o : Operand) (payload : Payload kind) :
    Except Fault Operand :=
  if present : o.hasPayload then .error .payloadPresent
  else if fits : payload.index ≤ maxPayload then
    .ok ⟨.ofNatLT (o.word.toNat + (payload.index + 1)) (add_payload_lt present fits)⟩
  else .error (.payloadTooLarge kind payload)

/-- Fills the empty condition field. -/
def setCondition (o : Operand) (condition : BoolRegister) : Except Fault Operand :=
  if present : o.hasCondition then .error .conditionPresent
  else if fits : condition.index ≤ maxCondition then
    .ok ⟨.ofNatLT (o.word.toNat + (condition.index + 1) * conditionUnit)
      (add_condition_lt present fits)⟩
  else .error (.conditionTooLarge condition)

def payload (o : Operand) (kind : PayloadKind) : Except Fault (Payload kind) :=
  if o.hasPayload then .ok ⟨o.payloadField - 1⟩ else .error .payloadMissing

def condition (o : Operand) : Except Fault BoolRegister :=
  if o.hasCondition then .ok ⟨o.conditionField - 1⟩ else .error .conditionMissing

end Operand

end PatternMachine

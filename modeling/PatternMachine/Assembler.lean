import PatternMachine.Instruction.Forms
import PatternMachine.Pool
import PatternMachine.Program.Basic

/-!
# The assembler

Statements are appended one by one. A statement that jumps names a token, which is bound to an
address before or after; assembling replaces every token by the address bound to it. Elements and
strings are interned, all other registers are numbered consecutively.
-/

namespace PatternMachine

/-- One instruction in source form: elements and strings stand for themselves, targets are
tokens. -/
inductive Statement (E : Type) where
  | nop (comment : Option String)
  | branch (target : Token)
  | condBranch (condition : BoolRegister) (target : Token)
  | save (target : Token)
  | saveAddress (target : Token)
  | clear
  | clearThrough (target : Token)
  | restore
  | call (target : Token)
  | ret
  | accept
  | fail
  | abort (reason : Option String)
  | consume (distance : Nat)
  | consumeBy (function : ConsumeRegister)
  | matchElement (element : E)
  | matchPredicate (predicate : PredicateRegister)
  | assertion (element : E) (condition : BoolRegister)
  | movePosition (register : PositionRegister)
  | comparePosition (register : PositionRegister) (condition : BoolRegister)
  | beginCapture (register : CaptureRegister)
  | endCapture (register : CaptureRegister)
  | backreference (register : CaptureRegister)
  | print (message : String)

/-- An instruction whose target, if it has one, is still to be filled in. -/
structure Line where
  instruction : Instruction
  target : Option Token
  deriving DecidableEq, Repr

structure Assembler (E : Type) where
  lines : Array Line
  elements : Pool E
  strings : Pool String
  predicates : Array (E → Bool)
  consumeFunctions : Array (ConsumeFunction E)
  /-- The address bound to each token made so far. -/
  tokens : Array (Option Address)
  nextBool : BoolRegister
  nextPosition : PositionRegister
  nextCapture : CaptureRegister

namespace Assembler

variable {E : Type}

def empty : Assembler E :=
  { lines := #[]
    elements := .empty
    strings := .empty
    predicates := #[]
    consumeFunctions := #[]
    tokens := #[]
    nextBool := ⟨0⟩
    nextPosition := ⟨0⟩
    nextCapture := ⟨0⟩ }

def size (a : Assembler E) : Nat := a.lines.size

/-- The address of the next instruction. -/
def here (a : Assembler E) : Address := ⟨a.lines.size⟩

/-! ### Tokens -/

def makeToken (a : Assembler E) : Token × Assembler E :=
  (⟨a.tokens.size⟩, { a with tokens := a.tokens.push none })

def bind (a : Assembler E) (token : Token) (address : Address) : Except Fault (Assembler E) :=
  match a.tokens[token.index]? with
  | none => .error .indexOutOfBounds
  | some (some _) => .error (.tokenBoundTwice token)
  | some none => .ok { a with tokens := a.tokens.setIfInBounds token.index (some address) }

/-- Binds a token to the next instruction. -/
def label (a : Assembler E) (token : Token) : Except Fault (Assembler E) := a.bind token a.here

/-- Binds a token to the latest instruction. -/
def resolve (a : Assembler E) (token : Token) : Except Fault (Assembler E) :=
  if a.lines.size = 0 then .error .nothingToResolve
  else a.bind token ⟨a.lines.size - 1⟩

/-! ### Constants and registers -/

def internElement [DecidableEq E] (a : Assembler E) (element : E) :
    ElementRegister × Assembler E :=
  let (index, elements) := a.elements.intern element
  (⟨index⟩, { a with elements })

/-- An assembler whose element registers start with the given elements. -/
def withElements [DecidableEq E] (elements : List E) : Assembler E :=
  { empty with elements := .ofList elements }

def internString (a : Assembler E) (s : String) : StringRegister × Assembler E :=
  let (index, strings) := a.strings.intern s
  (⟨index⟩, { a with strings })

def internString? (a : Assembler E) : Option String → Option StringRegister × Assembler E
  | none => (none, a)
  | some s => let (register, a) := a.internString s; (some register, a)

def addPredicate (a : Assembler E) (p : E → Bool) : PredicateRegister × Assembler E :=
  (⟨a.predicates.size⟩, { a with predicates := a.predicates.push p })

def addConsumeFunction (a : Assembler E) (f : ConsumeFunction E) :
    ConsumeRegister × Assembler E :=
  (⟨a.consumeFunctions.size⟩, { a with consumeFunctions := a.consumeFunctions.push f })

/-- The number of bool registers is limited by the width of the condition field. -/
def makeBoolRegister (a : Assembler E) : Except Fault (BoolRegister × Assembler E) :=
  if a.nextBool.index ≤ Operand.maxCondition then
    .ok (a.nextBool, { a with nextBool := a.nextBool.next })
  else .error .tooManyBoolRegisters

def makePositionRegister (a : Assembler E) : Except Fault (PositionRegister × Assembler E) := do
  return (a.nextPosition, { a with nextPosition := ← a.nextPosition.successor })

def makeCaptureRegister (a : Assembler E) : Except Fault (CaptureRegister × Assembler E) := do
  return (a.nextCapture, { a with nextCapture := ← a.nextCapture.successor })

/-! ### Statements -/

def push (a : Assembler E) (instruction : Instruction) (target : Option Token) :
    Except Fault (Assembler E) :=
  if a.lines.size ≤ Operand.maxPayload then
    .ok { a with lines := a.lines.push ⟨instruction, target⟩ }
  else .error .programTooLong

def emit [DecidableEq E] (a : Assembler E) : Statement E → Except Fault (Assembler E)
  | .nop comment => do
    let (s, a) := a.internString? comment
    a.push (← Instruction.nop s) none
  | .branch target => do a.push (← Instruction.branch none) (some target)
  | .condBranch condition target => do
    a.push (← Instruction.condBranch condition none) (some target)
  | .save target => do a.push (← Instruction.save none) (some target)
  | .saveAddress target => do a.push (← Instruction.saveAddress none) (some target)
  | .clear => do a.push (← Instruction.clear) none
  | .clearThrough target => do a.push (← Instruction.clearThrough none) (some target)
  | .restore => do a.push (← Instruction.restore) none
  | .call target => do a.push (← Instruction.call none) (some target)
  | .ret => do a.push (← Instruction.ret) none
  | .accept => do a.push (← Instruction.accept) none
  | .fail => do a.push (← Instruction.fail) none
  | .abort reason => do
    let (s, a) := a.internString? reason
    a.push (← Instruction.abort s) none
  | .consume distance => do a.push (← Instruction.consume ⟨distance⟩) none
  | .consumeBy function => do a.push (← Instruction.consumeBy function) none
  | .matchElement element => do
    let (e, a) := a.internElement element
    a.push (← Instruction.matchElement e) none
  | .matchPredicate predicate => do a.push (← Instruction.matchPredicate predicate) none
  | .assertion element condition => do
    let (e, a) := a.internElement element
    a.push (← Instruction.assertion condition e) none
  | .movePosition register => do a.push (← Instruction.movePosition register) none
  | .comparePosition register condition => do
    a.push (← Instruction.comparePosition condition register) none
  | .beginCapture register => do a.push (← Instruction.beginCapture register) none
  | .endCapture register => do a.push (← Instruction.endCapture register) none
  | .backreference register => do a.push (← Instruction.backreference register) none
  | .print message => do
    let (s, a) := a.internString message
    a.push (← Instruction.print s) none

/-! ### Assembling -/

/-- Fills in the target of a line. -/
def link (tokens : Array (Option Address)) (line : Line) : Except Fault Instruction :=
  match line.target with
  | none => pure line.instruction
  | some token =>
    match tokens[token.index]? with
    | none => throw .indexOutOfBounds
    | some none => throw (.tokenUnresolved token)
    | some (some address) => do
      return line.instruction.setOperand (← line.instruction.operand.setPayload address)

def assemble (a : Assembler E) : Except Fault (Program E) := do
  let code ← a.lines.mapM (link a.tokens)
  return {
    code
    elements := a.elements.items
    strings := a.strings.items
    predicates := a.predicates
    consumeFunctions := a.consumeFunctions
    registers := {
      elements := a.elements.items.size
      strings := a.strings.items.size
      bools := a.nextBool.index
      predicates := a.predicates.size
      consumeFunctions := a.consumeFunctions.size
      positions := a.nextPosition.index
      captures := a.nextCapture.index } }

end Assembler

end PatternMachine

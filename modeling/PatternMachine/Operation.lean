import PatternMachine.Instruction.Basic

/-!
# Operations

The decoded form of an instruction. Decoding fails on words that lack a field their opcode needs;
only comments and reasons are optional.
-/

namespace PatternMachine

inductive Operation where
  | invalid
  | nop (comment : Option StringRegister)
  | branch (target : Address)
  | condBranch (condition : BoolRegister) (target : Address)
  | save (target : Address)
  | saveAddress (target : Address)
  | clear
  | clearThrough (target : Address)
  | restore
  | call (target : Address)
  | ret
  | accept
  | fail
  | abort (reason : Option StringRegister)
  | consume (distance : Distance)
  | consumeBy (function : ConsumeRegister)
  | matchElement (element : ElementRegister)
  | matchPredicate (predicate : PredicateRegister)
  | assertion (element : ElementRegister) (condition : BoolRegister)
  | movePosition (register : PositionRegister)
  | comparePosition (register : PositionRegister) (condition : BoolRegister)
  | beginCapture (register : CaptureRegister)
  | endCapture (register : CaptureRegister)
  | backreference (register : CaptureRegister)
  | print (message : StringRegister)
  deriving DecidableEq, Repr

def Instruction.decode (i : Instruction) : Except Fault Operation := do
  match ← i.opcode with
  | .invalid => return .invalid
  | .nop => return .nop (← i.string?)
  | .branch => return .branch (← i.payload .address)
  | .condBranch => return .condBranch (← i.condition) (← i.payload .address)
  | .save => return .save (← i.payload .address)
  | .saveAddress => return .saveAddress (← i.payload .address)
  | .clear => return .clear
  | .clearThrough => return .clearThrough (← i.payload .address)
  | .restore => return .restore
  | .call => return .call (← i.payload .address)
  | .ret => return .ret
  | .accept => return .accept
  | .fail => return .fail
  | .abort => return .abort (← i.string?)
  | .consume => return .consume (← i.payload .distance)
  | .consumeBy => return .consumeBy (← i.payload .consumeFunction)
  | .matchElement => return .matchElement (← i.payload .element)
  | .matchPredicate => return .matchPredicate (← i.payload .predicate)
  | .assertion => return .assertion (← i.payload .element) (← i.condition)
  | .movePosition => return .movePosition (← i.payload .position)
  | .comparePosition => return .comparePosition (← i.payload .position) (← i.condition)
  | .beginCapture => return .beginCapture (← i.payload .capture)
  | .endCapture => return .endCapture (← i.payload .capture)
  | .backreference => return .backreference (← i.payload .capture)
  | .print => return .print (← i.payload .string)

end PatternMachine

import PatternMachine.Handle

/-!
# Opcodes

An opcode fixes the mnemonic of an instruction, the kind of its payload, and whether it takes a
condition. The all-zero word has the opcode `invalid`, which is never encoded.
-/

namespace PatternMachine

inductive Opcode where
  | invalid
  | nop
  | branch
  | condBranch
  | save
  | saveAddress
  | clear
  | clearThrough
  | restore
  | call
  | ret
  | accept
  | fail
  | abort
  | consume
  | consumeBy
  | matchElement
  | matchPredicate
  | assertion
  | movePosition
  | comparePosition
  | beginCapture
  | endCapture
  | backreference
  | print
  deriving DecidableEq, Repr

namespace Opcode

/-- All opcodes in the order of their numbers. -/
def all : Array Opcode := #[
  invalid, nop, branch, condBranch, save, saveAddress, clear, clearThrough, restore, call, ret,
  accept, fail, abort, consume, consumeBy, matchElement, matchPredicate, assertion, movePosition,
  comparePosition, beginCapture, endCapture, backreference, print]

def ofNumber? (n : Nat) : Option Opcode := all[n]?

def number : Opcode → Nat
  | invalid => 0
  | nop => 1
  | branch => 2
  | condBranch => 3
  | save => 4
  | saveAddress => 5
  | clear => 6
  | clearThrough => 7
  | restore => 8
  | call => 9
  | ret => 10
  | accept => 11
  | fail => 12
  | abort => 13
  | consume => 14
  | consumeBy => 15
  | matchElement => 16
  | matchPredicate => 17
  | assertion => 18
  | movePosition => 19
  | comparePosition => 20
  | beginCapture => 21
  | endCapture => 22
  | backreference => 23
  | print => 24

@[simp] theorem ofNumber?_number (op : Opcode) : ofNumber? op.number = some op := by
  cases op <;> rfl

theorem number_lt (op : Opcode) : op.number < 25 := by cases op <;> decide

def name : Opcode → String
  | invalid => "Invalid"
  | nop => "Nop"
  | branch => "Branch"
  | condBranch => "CondBranch"
  | save => "Save"
  | saveAddress => "SaveAddress"
  | clear => "Clear"
  | clearThrough => "ClearThrough"
  | restore => "Restore"
  | call => "Call"
  | ret => "Ret"
  | accept => "Accept"
  | fail => "Fail"
  | abort => "Abort"
  | consume => "Consume"
  | consumeBy => "ConsumeBy"
  | matchElement => "Match"
  | matchPredicate => "MatchPredicate"
  | assertion => "Assertion"
  | movePosition => "MovePosition"
  | comparePosition => "ComparePosition"
  | beginCapture => "BeginCapture"
  | endCapture => "EndCapture"
  | backreference => "Backreference"
  | print => "Print"

def mnemonic : Opcode → String
  | invalid => "INVALID"
  | nop => "NOP"
  | branch => "BRANCH"
  | condBranch => "COND_BRANCH"
  | save => "SAVE"
  | saveAddress => "SAVE_ADDRESS"
  | clear => "CLEAR"
  | clearThrough => "CLEAR_THROUGH"
  | restore => "RESTORE"
  | call => "CALL"
  | ret => "RET"
  | accept => "ACCEPT"
  | fail => "FAIL"
  | abort => "ABORT"
  | consume => "CONSUME"
  | consumeBy => "CONSUME_BY"
  | matchElement => "MATCH"
  | matchPredicate => "MATCH_PREDICATE"
  | assertion => "ASSERT"
  | movePosition => "MOVE_POSITION"
  | comparePosition => "COMPARE_POSITION"
  | beginCapture => "BEGIN_CAPTURE"
  | endCapture => "END_CAPTURE"
  | backreference => "BACKREFERENCE"
  | print => "PRINT"

def payloadKind? : Opcode → Option PayloadKind
  | invalid | clear | restore | ret | accept | fail => none
  | nop | abort | print => some .string
  | branch | condBranch | save | saveAddress | clearThrough | call => some .address
  | consume => some .distance
  | consumeBy => some .consumeFunction
  | matchElement | assertion => some .element
  | matchPredicate => some .predicate
  | movePosition | comparePosition => some .position
  | beginCapture | endCapture | backreference => some .capture

def takesCondition : Opcode → Bool
  | condBranch | assertion | comparePosition => true
  | _ => false

end Opcode

end PatternMachine

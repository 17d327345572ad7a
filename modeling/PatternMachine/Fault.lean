import PatternMachine.Instruction.Opcode

/-!
# Faults

A fault is a broken contract between the caller and an operation: an encoding that does not fit, a
program that is not well formed, a range outside the input. It is neither an error of a pattern nor
a failed match.
-/

namespace PatternMachine

/-- A range of positions, the last one excluded. -/
structure Span where
  start : Nat
  stop : Nat
  deriving DecidableEq, Repr, Inhabited

namespace Span

def text (s : Span) : String := toString s.start ++ ".." ++ toString s.stop

def length (s : Span) : Nat := s.stop - s.start

end Span

inductive Fault where
  | operandTooWide
  | payloadPresent
  | payloadTooLarge (kind : PayloadKind) (payload : Payload kind)
  | payloadMissing
  | payloadKindRefused (opcode : Opcode) (kind : PayloadKind)
  | conditionPresent
  | conditionTooLarge (condition : BoolRegister)
  | conditionMissing
  | conditionRefused (opcode : Opcode)
  | opcodeNotEncodable
  | opcodeUnknown (byte : Nat)
  | nothingToResolve
  | tokenBoundTwice (token : Token)
  | tokenUnresolved (token : Token)
  | programTooLong
  | tooManyBoolRegisters
  | rangeOutOfBounds (range : Span) (length : Nat)
  | alreadyHalted
  | positionOutOfRange (position : Nat) (range : Span)
  | trailTooShort (recorded length : Nat)
  | pastEnd (pc : Address)
  | invalidInstruction (pc : Address)
  | noSavePoint
  | noSavePointAt (target : Address)
  | callDepthChanged
  | captureNotOpen (capture : CaptureRegister)
  | consumedOutOfRange (position : Nat) (range : Span)
  | indexOutOfBounds
  | additionOverflow
  | subtractionOverflow
  | nothingLowered
  | tooLittleLowered
  | loweredNotSingle (count : Nat)

namespace Fault

def message : Fault → String
  | operandTooWide => "operand bits overlap with the opcode"
  | payloadPresent => "payload already initialized"
  | payloadTooLarge _ payload => "payload " ++ payload.text ++ " is out of range"
  | payloadMissing => "operand has no payload"
  | payloadKindRefused opcode kind =>
    opcode.mnemonic ++ " doesn't take a " ++ kind.name ++ " payload"
  | conditionPresent => "condition already initialized"
  | conditionTooLarge condition =>
    "bool register " ++ condition.text ++ " doesn't fit in a condition"
  | conditionMissing => "operand has no condition"
  | conditionRefused opcode => opcode.mnemonic ++ " doesn't take a condition"
  | opcodeNotEncodable => "can't encode an invalid opcode"
  | opcodeUnknown byte => "unknown opcode 0x" ++ Text.hexPadded 2 byte
  | nothingToResolve => "resolve() requires at least one instruction"
  | tokenBoundTwice token => "address token " ++ token.text ++ " bound twice"
  | tokenUnresolved token => "address token " ++ token.text ++ " was never resolved"
  | programTooLong => "program exceeds the addressable range"
  | tooManyBoolRegisters => "too many bool registers"
  | rangeOutOfBounds range length =>
    "range " ++ range.text ++ " out of bounds for input of length " ++ toString length
  | alreadyHalted => "cycle() called on a processor that has already halted"
  | positionOutOfRange position range =>
    "position " ++ toString position ++ " outside the search range " ++ range.text
  | trailTooShort recorded length =>
    "save point at trail length " ++ toString recorded ++ " above a trail of length " ++
      toString length
  | pastEnd pc => "pc " ++ pc.text ++ " is past the end of the program"
  | invalidInstruction pc => "invalid instruction at " ++ pc.text
  | noSavePoint => "CLEAR executed with an empty save point stack"
  | noSavePointAt target => "no save point to clear through " ++ target.text
  | callDepthChanged => "call stack not restored to its depth at save time"
  | captureNotOpen capture => "END_CAPTURE " ++ capture.text ++ " without BEGIN_CAPTURE"
  | consumedOutOfRange position range =>
    "consume function returned " ++ toString position ++ " outside " ++ toString range.start ++
      "..=" ++ toString range.stop
  | indexOutOfBounds => "index out of bounds"
  | additionOverflow => "attempt to add with overflow"
  | subtractionOverflow => "attempt to subtract with overflow"
  | nothingLowered => "lowering stack is empty"
  | tooLittleLowered => "lowering stack is too short"
  | loweredNotSingle count =>
    "assertion `left == right` failed\n  left: " ++ toString count ++ "\n right: 1"

end Fault

/-- The handle behind `h`, as long as handles fit a 64-bit word. -/
def Handle.successor {kind : HandleKind} (h : Handle kind) : Except Fault (Handle kind) :=
  if h.index + 1 < UInt64.size then .ok h.next else .error .additionOverflow

end PatternMachine

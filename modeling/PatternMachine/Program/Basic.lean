import PatternMachine.Instruction.Basic

/-!
# Programs

A program is a sequence of instructions together with the constants they refer to and the number of
registers of each kind. It is immutable; searches only read it.
-/

namespace PatternMachine

/-- A custom consumer: from the whole input and the range between the current position and the end
of the search, the new position, if it accepts. -/
abbrev ConsumeFunction (E : Type) := Array E → Span → Option Nat

structure RegisterCounts where
  elements : Nat
  strings : Nat
  bools : Nat
  predicates : Nat
  consumeFunctions : Nat
  positions : Nat
  captures : Nat
  deriving DecidableEq, Repr

structure Program (E : Type) where
  code : Array Instruction
  elements : Array E
  strings : Array String
  predicates : Array (E → Bool)
  consumeFunctions : Array (ConsumeFunction E)
  registers : RegisterCounts

end PatternMachine

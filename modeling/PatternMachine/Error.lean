import PatternMachine.Expr.Look
import PatternMachine.Fault

/-!
# Errors

What can be wrong with a pattern, and what can stop a search before its end. Exceeding a limit says
nothing about whether the input matches.
-/

namespace PatternMachine

/-- What has a meaning, and no code. -/
inductive Unsupported where
  | boundsReversed (least most : Nat)
  | malformedText
  | assertion (look : Look)
  deriving DecidableEq, Repr

def Unsupported.message : Unsupported → String
  | boundsReversed least most => s!"repetition with min ({least}) greater than max ({most})"
  | malformedText => "literal is not valid UTF-8"
  | assertion look => "look-around assertion " ++ look.name

inductive CompileError where
  | badSyntax
  | undefinedProduction (name : String)
  | invalidBackreference (index : Nat)
  | unsupported (what : Unsupported)
  | tooLarge
  deriving DecidableEq, Repr

def CompileError.message : CompileError → String
  | badSyntax => "syntax error"
  | undefinedProduction name => s!"undefined production `{name}`"
  | invalidBackreference index => s!"backreference to undefined capture group {index}"
  | unsupported what => "unsupported construct: " ++ what.message
  | tooLarge => "program too large"

/-- Why there is no program: the pattern is wrong, or it breaks a contract. -/
inductive Rejection where
  | error (e : CompileError)
  | fault (f : Fault)

inductive MatchError where
  | backtrackLimitExceeded (limit : Nat)
  | cycleLimitExceeded (limit : Nat)
  deriving DecidableEq, Repr

def MatchError.message : MatchError → String
  | backtrackLimitExceeded limit => s!"backtrack limit exceeded (max save points: {limit})"
  | cycleLimitExceeded limit => s!"cycle limit exceeded (max cycles: {limit})"

end PatternMachine

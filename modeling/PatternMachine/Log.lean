import PatternMachine.Fault

/-!
# Records of a run

Records are kept in the order they are written. An operation that ends in a fault keeps the records
written before it.
-/

namespace PatternMachine

inductive Level where
  | trace
  | debug
  | warn
  deriving DecidableEq, Repr

def Level.name : Level → String
  | trace => "TRACE"
  | debug => "DEBUG"
  | warn => "WARN"

structure LogRecord where
  level : Level
  text : String
  deriving DecidableEq, Repr

def LogRecord.line (r : LogRecord) : String := r.level.name ++ " " ++ r.text

abbrev Log := Array LogRecord

/-- Computations that write records and may end in a fault. -/
abbrev Logged := ExceptT Fault (StateM Log)

namespace Logged

def write (level : Level) (text : String) : Logged Unit := modify (·.push ⟨level, text⟩)

end Logged

end PatternMachine

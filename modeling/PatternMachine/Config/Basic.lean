import PatternMachine.Machine.Search

/-!
# Configurations

Options of the parser of regular expressions, of the compiler and of searches. Every option has a
default.
-/

namespace PatternMachine

structure ParserConfig where
  caseInsensitive : Bool := false
  dotMatchesNewLine : Bool := false
  unicode : Bool := true
  multiLine : Bool := false
  deriving DecidableEq, Repr

structure EngineConfig extends Settings where
  maxInstructions : Nat := 1 <<< 24
  deriving DecidableEq, Repr

structure Config where
  parser : ParserConfig := {}
  engine : EngineConfig := {}
  deriving DecidableEq, Repr

instance : Spelled MatchMode := ⟨MatchMode.name⟩

instance : Spelled ParserConfig where
  spell c := Text.record "SyntaxConfig" [
    ("case_insensitive", spell c.caseInsensitive),
    ("dot_matches_new_line", spell c.dotMatchesNewLine),
    ("unicode", spell c.unicode),
    ("multi_line", spell c.multiLine)]

instance : Spelled EngineConfig where
  spell c := Text.record "EngineConfig" [
    ("enable_tracing", spell c.tracing),
    ("match_mode", spell c.mode),
    ("max_save_points", spell c.maxSavePoints),
    ("cycle_limit", spell c.cycleLimit),
    ("max_instructions", spell c.maxInstructions)]

instance : Spelled Config where
  spell c := Text.record "Config" [("syntax", spell c.parser), ("engine", spell c.engine)]

end PatternMachine

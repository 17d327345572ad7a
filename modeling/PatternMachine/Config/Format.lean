import PatternMachine.Config.Basic
import PatternMachine.Config.Document

/-!
# The written form of configurations

A configuration is an object of two objects. Reading fills absent fields with their defaults and
ignores fields it does not know; an array stands for the fields in their order. Writing gives every
field, in order and without blanks.
-/

namespace PatternMachine

namespace Document

/-- Changes a configuration by one value, if the value fits. -/
abbrev Setter (α : Type) := α → Document → Option α

def toBool? : Document → Option Bool
  | bool b => some b
  | _ => none

/-- A number that fits a 64-bit word. A negative zero is not one. -/
def toWord? : Document → Option Nat
  | integer false n => if n < UInt64.size then some n else none
  | _ => none

def toOptionalWord? : Document → Option (Option Nat)
  | null => some none
  | d => d.toWord?.map some

def modeNamed? : Option String → Option MatchMode
  | some "prefix" => some .anywhere
  | some "whole" => some .whole
  | _ => none

/-- A mode is its name, or an object with the name as its only key and no value. -/
def toMode? : Document → Option MatchMode
  | string name => modeNamed? name
  | object [(name, null)] => modeNamed? name
  | _ => none

/-- Sets the known fields of an object, none of them twice. -/
def setMembers {α : Type} (fields : List (String × Setter α)) :
    List String → List (Option String × Document) → α → Option α
  | _, [], a => some a
  | _, (none, _) :: _, _ => none
  | seen, (some key, value) :: rest, a =>
    match fields.find? (·.1 == key) with
    | none => setMembers fields seen rest a
    | some (_, set) =>
      if seen.contains key then none
      else (set a value).bind (setMembers fields (key :: seen) rest)

/-- Sets fields in order, as many as there are items. -/
def setItems {α : Type} : List (String × Setter α) → List Document → α → Option α
  | _, [], a => some a
  | [], _ :: _, _ => none
  | (_, set) :: fields, item :: rest, a => (set a item).bind (setItems fields rest)

/-- Sets the fields given by an object or an array. -/
def setFields {α : Type} (fields : List (String × Setter α)) (a : α) : Document → Option α
  | object members => setMembers fields [] members a
  | array items => setItems fields items a
  | _ => none

end Document

def ParserConfig.fields : List (String × Document.Setter ParserConfig) := [
  ("case_insensitive", fun c d => d.toBool?.map fun b => { c with caseInsensitive := b }),
  ("dot_matches_new_line", fun c d => d.toBool?.map fun b => { c with dotMatchesNewLine := b }),
  ("unicode", fun c d => d.toBool?.map fun b => { c with unicode := b }),
  ("multi_line", fun c d => d.toBool?.map fun b => { c with multiLine := b })]

def EngineConfig.fields : List (String × Document.Setter EngineConfig) := [
  ("enable_tracing", fun c d => d.toBool?.map fun b => { c with tracing := b }),
  ("match_mode", fun c d => d.toMode?.map fun mode => { c with mode }),
  ("max_save_points", fun c d => d.toWord?.map fun n => { c with maxSavePoints := n }),
  ("cycle_limit", fun c d => d.toOptionalWord?.map fun n => { c with cycleLimit := n }),
  ("max_instructions", fun c d => d.toWord?.map fun n => { c with maxInstructions := n })]

def ParserConfig.ofDocument? (d : Document) : Option ParserConfig :=
  d.setFields ParserConfig.fields {}

def EngineConfig.ofDocument? (d : Document) : Option EngineConfig :=
  d.setFields EngineConfig.fields {}

def Config.fields : List (String × Document.Setter Config) := [
  ("syntax", fun c d => (ParserConfig.ofDocument? d).map fun parser => { c with parser }),
  ("engine", fun c d => (EngineConfig.ofDocument? d).map fun engine => { c with engine })]

/-- The configuration that a text describes. -/
def Config.read? (text : String) : Option Config :=
  (Document.parse? text).bind fun d => d.setFields Config.fields {}

namespace Config

def writeMembers (members : List (String × String)) : String :=
  "\x7b" ++ ",".intercalate (members.map fun m => "\"" ++ m.1 ++ "\":" ++ m.2) ++ "\x7d"

def writeOptional : Option Nat → String
  | none => "null"
  | some n => toString n

def writeMode : MatchMode → String
  | .anywhere => "\"prefix\""
  | .whole => "\"whole\""

def write (c : Config) : String :=
  writeMembers [
    ("syntax", writeMembers [
      ("case_insensitive", spell c.parser.caseInsensitive),
      ("dot_matches_new_line", spell c.parser.dotMatchesNewLine),
      ("unicode", spell c.parser.unicode),
      ("multi_line", spell c.parser.multiLine)]),
    ("engine", writeMembers [
      ("enable_tracing", spell c.engine.tracing),
      ("match_mode", writeMode c.engine.mode),
      ("max_save_points", toString c.engine.maxSavePoints),
      ("cycle_limit", writeOptional c.engine.cycleLimit),
      ("max_instructions", toString c.engine.maxInstructions)])]

end Config

end PatternMachine

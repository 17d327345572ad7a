import PatternMachine.Program.Basic

/-!
# Listings

A listing shows the constants of a program and one line per instruction. Behind an instruction
stand the string it carries and the instruction it jumps to.
-/

namespace PatternMachine.Program

variable {E : Type}

/-- What stands behind a jump: the instruction at its target. -/
def targetNote (p : Program E) : Option Address → Except Fault String
  | none => pure ""
  | some target =>
    match p.code[target.index]? with
    | some i => return " // " ++ (← i.text)
    | none => pure " // <end>"

def stringNote (p : Program E) : Option StringRegister → Except Fault String
  | none => pure ""
  | some register =>
    match p.strings[register.index]? with
    | some s => pure (" // " ++ spell s)
    | none => throw .indexOutOfBounds

def listingLine (p : Program E) (address : Nat) (i : Instruction) : Except Fault String := do
  let text ← i.text
  let string ← p.stringNote (← i.string?)
  let target ← p.targetNote (← i.target?)
  return "[" ++ toString address ++ "] " ++ text ++ string ++ target ++ "\n"

/-- One line with a count, left out if there is nothing to count. -/
def countLine (label : String) (count : Nat) : String :=
  if count = 0 then "" else label ++ ": " ++ toString count ++ "\n"

def listing [Spelled E] (p : Program E) : Except Fault String := do
  let lines ← p.code.toList.zipIdx.mapM fun (i, address) => p.listingLine address i
  return "elements: " ++ spell p.elements.toList ++ "\n" ++
    "strings: " ++ spell p.strings.toList ++ "\n" ++
    countLine "predicates" p.predicates.size ++
    countLine "consume functions" p.consumeFunctions.size ++
    String.join lines

end PatternMachine.Program

import PatternMachine.Text.Quoted

/-!
# Spellings

How values are written in listings, traces and trees: quoted text, lists in brackets, tuples in
parentheses behind their name, records in braces.
-/

namespace PatternMachine

/-- Values with a spelling that shows all of their content. -/
class Spelled (α : Type) where
  spell : α → String

export Spelled (spell)

namespace Text

def commaSeparated (items : List String) : String := ", ".intercalate items

def tuple (name : String) (items : List String) : String :=
  name ++ "(" ++ commaSeparated items ++ ")"

def record (name : String) (fields : List (String × String)) : String :=
  name ++ " \x7b " ++ commaSeparated (fields.map fun f => f.1 ++ ": " ++ f.2) ++ " \x7d"

end Text

instance : Spelled Char := ⟨Text.quoteChar⟩
instance : Spelled String := ⟨Text.quote⟩
instance : Spelled Int := ⟨toString⟩
instance : Spelled Nat := ⟨toString⟩
instance : Spelled Bool := ⟨fun b => if b then "true" else "false"⟩

instance {α : Type} [Spelled α] : Spelled (List α) :=
  ⟨fun items => "[" ++ Text.commaSeparated (items.map spell) ++ "]"⟩

instance {α : Type} [Spelled α] : Spelled (Option α) :=
  ⟨fun | none => "None" | some a => Text.tuple "Some" [spell a]⟩

end PatternMachine

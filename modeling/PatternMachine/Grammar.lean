import PatternMachine.Pattern.Spelling

/-!
# Grammars

A grammar gives names to patterns, which may refer to each other by name and so describe recursive
languages.
-/

namespace PatternMachine

/-- Patterns under names, each name once, in the order in which the names first came. -/
structure Grammar (E : Type) where
  start : String
  productions : List (String × Pattern E)

namespace Grammar

variable {E : Type}

def empty (start : String) : Grammar E := ⟨start, []⟩

/-- Puts a pattern under a name; a name that is there already keeps its place. -/
def put (name : String) (body : Pattern E) :
    List (String × Pattern E) → List (String × Pattern E)
  | [] => [(name, body)]
  | p :: rest => if p.1 = name then (name, body) :: rest else p :: put name body rest

def insert (g : Grammar E) (name : String) (body : Pattern E) : Grammar E :=
  { g with productions := put name body g.productions }

def get? (g : Grammar E) (name : String) : Option (Pattern E) := g.productions.lookup name

theorem mem_of_get? {g : Grammar E} {name : String} {body : Pattern E}
    (h : g.get? name = some body) : (name, body) ∈ g.productions := by
  obtain ⟨before, after, eq, -⟩ := List.lookup_eq_some_iff.mp h
  rw [eq]
  exact List.mem_append_right _ List.mem_cons_self

/-- One more than the largest index of a capture group in any production. -/
def captureCount (g : Grammar E) : Nat := Pattern.captureCounts (g.productions.map (·.2))

instance [Spelled E] : Spelled (Grammar E) where
  spell g :=
    let productions := g.productions.map fun p => spell p.1 ++ ": " ++ spell p.2
    Text.record "Grammar" [
      ("start", spell g.start),
      ("productions", "\x7b" ++ Text.commaSeparated productions ++ "\x7d")]

end Grammar

end PatternMachine

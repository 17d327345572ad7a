import Mathlib.Data.Fintype.EquivFin
import Mathlib.Data.Fintype.Card
import Mathlib.Data.Fintype.Sets
import Mathlib.Logic.Relation
import PatternMachine.Grammar

/-! Which productions a production may enter before anything has been consumed. If no production comes back
to itself in this way, there is no infinite way from one to the next, as there are finitely many. -/
namespace PatternMachine

variable {E : Type}

namespace Pattern

mutual

/-- The names that a pattern may refer to before it has consumed anything. A part of a sequence counts
only if everything in front of it can match empty. -/
def leftReferences : Pattern E → List String
  | concat parts => leftReferencesInSequence parts
  | alternation branches => alternativeLeftReferences branches
  | repetition _ _ body => body.leftReferences
  | capture _ _ body => body.leftReferences
  | reference name => [name]
  | lookahead _ body => body.leftReferences
  | atomic body => body.leftReferences
  | empty | any | element _ | literal _ | predicate _ | consumer _ | anchor _ | backreference _ => []

def leftReferencesInSequence : List (Pattern E) → List String
  | [] => []
  | q :: rest => q.leftReferences ++ if q.canMatchEmpty then leftReferencesInSequence rest else []

def alternativeLeftReferences : List (Pattern E) → List String
  | [] => []
  | q :: rest => q.leftReferences ++ alternativeLeftReferences rest

end

end Pattern

namespace Grammar

/-- The first production may enter the second one before it has consumed anything. -/
def LeftReaches (g : Grammar E) (caller callee : String) : Prop :=
  ∃ body, g.get? caller = some body ∧ callee ∈ body.leftReferences

variable {g : Grammar E}

theorem LeftReaches.mem {caller callee : String} (h : g.LeftReaches caller callee) :
    caller ∈ g.productions.map (·.1) := by
  obtain ⟨body, known, -⟩ := h
  exact List.mem_map_of_mem (mem_of_get? known)

/-- A rank that falls from production to production excludes cycles. -/
theorem acyclic_of_rank (rank : String → Nat)
    (falls : ∀ q ∈ g.productions, ∀ callee ∈ q.2.leftReferences, rank callee < rank q.1)
    (name : String) : ¬Relation.TransGen g.LeftReaches name name := by
  have step {caller callee : String} (h : g.LeftReaches caller callee) :
      rank callee < rank caller := by
    obtain ⟨body, known, member⟩ := h
    exact falls _ (mem_of_get? known) callee member
  have path {caller callee : String} (h : Relation.TransGen g.LeftReaches caller callee) :
      rank callee < rank caller := by
    induction h with
    | single h => exact step h
    | tail _ h ih => exact Nat.lt_trans (step h) ih
  exact fun cycle => Nat.lt_irrefl _ (path cycle)

/-- The names of productions, of which there are finitely many. -/
abbrev Named (g : Grammar E) : Type := { name // name ∈ g.productions.map (·.1) }

/-- Without a cycle, every way from production to production ends. -/
theorem leftReaches_wellFounded (acyclic : ∀ name, ¬Relation.TransGen g.LeftReaches name name) :
    WellFounded fun callee caller => g.LeftReaches caller callee := by
  let reached (callee caller : g.Named) : Prop := Relation.TransGen g.LeftReaches caller.1 callee.1
  have : IsTrans g.Named reached := ⟨fun _ _ _ first second => second.trans first⟩
  have : Std.Irrefl reached := ⟨fun name => acyclic name.1⟩
  have wf : WellFounded reached := Finite.wellFounded_of_trans_of_irrefl reached
  have named (name : g.Named) : Acc (fun callee caller => g.LeftReaches caller callee) name.1 := by
    induction name using wf.induction with
    | _ name ih =>
      refine .intro _ fun callee reaches => ?_
      by_cases known : callee ∈ g.productions.map (·.1)
      · exact ih ⟨callee, known⟩ (.single reaches)
      · exact .intro _ fun _ further => absurd further.mem known
  refine ⟨fun caller => .intro _ fun callee reaches => ?_⟩
  by_cases known : callee ∈ g.productions.map (·.1)
  · exact named ⟨callee, known⟩
  · exact .intro _ fun _ further => absurd further.mem known

end Grammar

end PatternMachine

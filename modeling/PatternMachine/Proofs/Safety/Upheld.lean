/-! A rule says what is right at a control point, given what is right at the points that follow. It is
upheld from a point if nothing is met from there but points where it is right, and exits. This is the
greatest fixed point of the rule, so that loops are right by themselves. -/
namespace PatternMachine

variable {C : Type}

/-- What a rule says of a point and of what is open there, where `next` holds of those that follow. -/
abbrev Rule (C : Type) := (Nat → C → Prop) → Nat → C → Prop

/-- A rule asks for nothing but that the points that follow are right. -/
def Rule.Monotone (rule : Rule C) : Prop :=
  ∀ ⦃next next' : Nat → C → Prop⦄, (∀ j e, next j e → next' j e) →
    ∀ i d, rule next i d → rule next' i d

def Upheld (rule : Rule C) (exits : Nat → C → Prop) (i : Nat) (d : C) : Prop :=
  ∃ points : Nat → C → Prop, points i d ∧ ∀ j e, points j e → exits j e ∨ rule points j e

namespace Upheld

variable {rule : Rule C} {exits exits' : Nat → C → Prop} {i : Nat} {d : C}

theorem exit (h : exits i d) : Upheld rule exits i d :=
  ⟨fun j e => j = i ∧ e = d, ⟨rfl, rfl⟩, fun j e here => .inl (by rw [here.1, here.2]; exact h)⟩

variable (mono : rule.Monotone)

include mono

theorem unfold (h : Upheld rule exits i d) : exits i d ∨ rule (Upheld rule exits) i d := by
  obtain ⟨points, here, closed⟩ := h
  exact (closed i d here).imp_right (mono (fun j e there => ⟨points, there, closed⟩) i d)

/-- The exits of a part lead on. -/
theorem bind (h : Upheld rule exits i d) (on : ∀ j e, exits j e → Upheld rule exits' j e) :
    Upheld rule exits' i d := by
  refine ⟨fun j e => Upheld rule exits j e ∨ Upheld rule exits' j e, .inl h, ?_⟩
  intro j e right
  have later : Upheld rule exits' j e → exits' j e ∨
      rule (fun j e => Upheld rule exits j e ∨ Upheld rule exits' j e) j e :=
    fun right => (right.unfold mono).imp_right (mono (fun _ _ => .inr) j e)
  rcases right with right | right
  · rcases right.unfold mono with leaves | right
    · exact later (on j e leaves)
    · exact .inr (mono (fun _ _ => .inl) j e right)
  · exact later right

theorem widen (h : Upheld rule exits i d) (le : ∀ j e, exits j e → exits' j e) :
    Upheld rule exits' i d := h.bind mono fun j e leaves => .exit (le j e leaves)

/-- To show a rule of a point, it may be taken as upheld from there behind its own instruction. -/
theorem loop (h : rule (Upheld rule fun j e => exits j e ∨ (j = i ∧ e = d)) i d) :
    Upheld rule exits i d := by
  refine ⟨Upheld rule fun j e => exits j e ∨ (j = i ∧ e = d), .exit (.inr ⟨rfl, rfl⟩), ?_⟩
  intro j e right
  rcases right.unfold mono with (leaves | ⟨rfl, rfl⟩) | right
  · exact .inl leaves
  · exact .inr h
  · exact .inr right

theorem step (h : rule (Upheld rule exits) i d) : Upheld rule exits i d :=
  .loop mono (mono (fun _ _ right => right.widen mono fun _ _ => .inl) i d h)

/-- Where there are no exits, the rule is right. -/
theorem right (h : Upheld rule (fun _ _ => False) i d) : rule (Upheld rule fun _ _ => False) i d :=
  (h.unfold mono).resolve_left id

end Upheld

end PatternMachine

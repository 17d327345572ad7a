import PatternMachine.Compilation.Pattern
import PatternMachine.Proofs.Layout.Emission

/-! A pattern compiles only if the bounds of its repetitions are in order. A body that is never copied is
not looked at. -/
namespace PatternMachine

variable {E : Type}

/-- The least number of repetitions is not above the greatest. -/
def Amount.Ordered (amount : Amount) : Prop :=
  ∀ most, amount.most = some most → amount.least ≤ most

namespace Pattern

mutual

/-- The bounds of all repetitions that are emitted are in order. -/
def Ordered : Pattern E → Prop
  | concat parts => AllOrdered parts
  | alternation branches => AllOrdered branches
  | repetition amount _ body => amount.Ordered ∧ (amount.most ≠ some 0 → body.Ordered)
  | capture _ _ body => body.Ordered
  | lookahead _ body => body.Ordered
  | atomic body => body.Ordered
  | empty | any | element _ | literal _ | predicate _ | consumer _ | reference _ | anchor _
  | backreference _ => True

def AllOrdered : List (Pattern E) → Prop
  | [] => True
  | q :: rest => q.Ordered ∧ AllOrdered rest

end

end Pattern

namespace Compilation

/-- There is a compilation that the emission does not reject. -/
def Emission.Goes (body : Emission E) : Prop := ∃ c d, body c = .ok d

variable {c d : Compilation E} {body : Emission E}

theorem goes_of_mandatory {n : Nat} (h : mandatory body (n + 1) c = .ok d) : body.Goes := by
  obtain ⟨c₁, inner, -⟩ := bind_eq_ok.mp h
  exact ⟨c, c₁, inner⟩

variable [DecidableEq E]

theorem goes_of_atomically (h : c.atomically body = .ok d) : body.Goes := by
  obtain ⟨c₁, -, h⟩ := bind_eq_ok.mp h
  obtain ⟨c₂, inner, -⟩ := bind_eq_ok.mp h
  exact ⟨c₁, c₂, inner⟩

theorem goes_of_lookingAhead {kind : Lookahead} (h : c.lookingAhead kind body = .ok d) :
    body.Goes := by
  obtain ⟨c₁, -, h⟩ := bind_eq_ok.mp h
  obtain ⟨c₂, -, h⟩ := bind_eq_ok.mp h
  obtain ⟨c₃, inner, -⟩ := bind_eq_ok.mp h
  exact ⟨c₂, c₃, inner⟩

theorem goes_of_branch {done : Token} (h : c.branch done body = .ok d) : body.Goes := by
  obtain ⟨c₁, -, h⟩ := bind_eq_ok.mp h
  obtain ⟨c₂, inner, -⟩ := bind_eq_ok.mp h
  exact ⟨c₁, c₂, inner⟩

theorem goes_of_upTo {n : Nat} {greedy : Bool} (some : n ≠ 0) (h : c.upTo n greedy body = .ok d) :
    body.Goes := by
  obtain ⟨n, rfl⟩ := Nat.exists_eq_succ_of_ne_zero some
  obtain ⟨c₁, optional, -⟩ := bind_eq_ok.mp h
  obtain ⟨c₂, -, optional⟩ := bind_eq_ok.mp optional
  obtain ⟨c₃, inner, -⟩ := bind_eq_ok.mp optional
  exact ⟨c₂, c₃, inner⟩

theorem goes_of_checkedIteration {register : PositionRegister} {exit : Token}
    (h : c.checkedIteration register exit body = .ok d) : body.Goes := by
  obtain ⟨c₁, -, h⟩ := bind_eq_ok.mp h
  obtain ⟨c₂, inner, -⟩ := bind_eq_ok.mp h
  exact ⟨c₁, c₂, inner⟩

theorem goes_of_loop {greedy : Bool} {iteration : Token → Emission E}
    (h : c.loop greedy iteration = .ok d) : ∃ exit, (iteration exit).Goes := by
  obtain ⟨c₁, -, h⟩ := bind_eq_ok.mp h
  obtain ⟨c₂, -, h⟩ := bind_eq_ok.mp h
  obtain ⟨c₃, inner, -⟩ := bind_eq_ok.mp h
  exact ⟨_, c₂, c₃, inner⟩

theorem goes_of_star {greedy nullable : Bool} (h : c.star greedy nullable body = .ok d) :
    body.Goes := by
  cases nullable with
  | false =>
    have h : c.loop greedy (fun _ => body) = .ok d := h
    obtain ⟨-, goes⟩ := goes_of_loop h
    exact goes
  | true =>
    obtain ⟨⟨register, c₁⟩, -, h⟩ := bind_eq_ok.mp h
    obtain ⟨exit, c₂, c₃, inner⟩ := goes_of_loop h
    exact goes_of_checkedIteration inner

/-- A body that may take part is emitted as a mandatory copy, an optional one or that of a loop. -/
theorem goes_of_repeated {amount : Amount} {greedy nullable : Bool}
    (takesPart : amount.most ≠ some 0)
    (h : c.repeated amount.least amount.most greedy nullable body = .ok d) : body.Goes := by
  obtain ⟨c₁, front, back⟩ := bind_eq_ok.mp h
  cases bound : amount.least with
  | succ least =>
    rw [bound] at front
    exact goes_of_mandatory front
  | zero =>
    cases most : amount.most with
    | none =>
      rw [most] at back
      exact goes_of_star back
    | some n =>
      rw [most, bound] at back
      exact goes_of_upTo (fun none => takesPart (by rw [most, ← Nat.sub_zero n, none])) back

theorem goes_of_emitRepetition {amount : Amount} {preference : Preference} {nullable : Bool}
    (h : c.emitRepetition amount preference nullable body = .ok d) :
    amount.Ordered ∧ (amount.most ≠ some 0 → body.Goes) := by
  have go (ordered : amount.Ordered)
      (h : emitRepetition.go c amount preference nullable body = .ok d) :
      amount.Ordered ∧ (amount.most ≠ some 0 → body.Goes) := by
    refine ⟨ordered, fun takesPart => ?_⟩
    cases preference with
    | greedy => exact goes_of_repeated takesPart h
    | reluctant => exact goes_of_repeated takesPart h
    | possessive =>
      obtain ⟨c₁, d₁, inner⟩ := goes_of_atomically h
      exact goes_of_repeated takesPart inner
  simp only [emitRepetition] at h
  split at h
  next most known =>
    split at h
    · cases h
    next above => exact go (fun bound same => by cases known.symm.trans same; omega) h
  next unbounded => exact go (fun bound same => by cases unbounded.symm.trans same) h

theorem goes_of_emitCapture {index : Nat} (h : c.emitCapture index body = .ok d) : body.Goes := by
  simp only [emitCapture] at h
  split at h
  · cases h
  · obtain ⟨c₁, -, h⟩ := bind_eq_ok.mp h
    obtain ⟨c₂, inner, -⟩ := bind_eq_ok.mp h
    exact ⟨c₁, c₂, inner⟩

end Compilation

namespace Pattern

open Compilation

variable [DecidableEq E]

mutual

theorem emit_ordered : (q : Pattern E) → q.emit.Goes → q.Ordered
  | concat parts, ⟨_, _, h⟩ => by
    obtain ⟨c, -, h⟩ := bind_eq_ok.mp h
    exact emitParts_ordered parts ⟨_, _, h⟩
  | alternation branches, ⟨_, _, h⟩ => by
    obtain ⟨c, -, h⟩ := bind_eq_ok.mp h
    obtain ⟨d, inner, -⟩ := bind_eq_ok.mp h
    exact emitBranches_ordered branches ⟨_, _, inner⟩
  | repetition amount preference body, ⟨_, _, h⟩ => by
    obtain ⟨c, -, h⟩ := bind_eq_ok.mp h
    obtain ⟨ordered, goes⟩ := goes_of_emitRepetition h
    exact ⟨ordered, fun takesPart => body.emit_ordered (goes takesPart)⟩
  | capture index name body, ⟨_, _, h⟩ => by
    obtain ⟨c, -, h⟩ := bind_eq_ok.mp h
    exact body.emit_ordered (goes_of_emitCapture h)
  | lookahead kind body, ⟨_, _, h⟩ => by
    obtain ⟨c, -, h⟩ := bind_eq_ok.mp h
    exact body.emit_ordered (goes_of_lookingAhead h)
  | atomic body, ⟨_, _, h⟩ => by
    obtain ⟨c, -, h⟩ := bind_eq_ok.mp h
    exact body.emit_ordered (goes_of_atomically h)
  | empty, _ | any, _ | element _, _ | literal _, _ | predicate _, _ | consumer _, _
  | reference _, _ | anchor _, _ | backreference _, _ => trivial

theorem emitParts_ordered : (parts : List (Pattern E)) → (emitParts parts).Goes → AllOrdered parts
  | [], _ => trivial
  | q :: rest, ⟨_, _, h⟩ => by
    obtain ⟨c, first, others⟩ := bind_eq_ok.mp h
    exact ⟨q.emit_ordered ⟨_, _, first⟩, emitParts_ordered rest ⟨_, _, others⟩⟩

theorem emitBranches_ordered {done : Token} :
    (branches : List (Pattern E)) → (emitBranches done branches).Goes → AllOrdered branches
  | [], _ => trivial
  | [q], goes => ⟨q.emit_ordered goes, trivial⟩
  | q :: q' :: rest, ⟨_, _, h⟩ => by
    obtain ⟨c, first, others⟩ := bind_eq_ok.mp h
    exact ⟨q.emit_ordered (goes_of_branch first), emitBranches_ordered (q' :: rest) ⟨_, _, others⟩⟩

end

theorem compile_ordered {q : Pattern E} {limit : Nat} {p : Program E}
    (h : q.compile limit = .ok p) : q.Ordered := by
  obtain ⟨a, -, h⟩ := bind_eq_ok.mp h
  obtain ⟨b, emitted, -⟩ := bind_eq_ok.mp h
  exact q.emit_ordered ⟨a, b, emitted⟩

end Pattern

end PatternMachine

import PatternMachine.Proofs.Layout.Shape
import PatternMachine.Proofs.Safety.Upheld

/-! A control point of a program is typed by the constructs that are open there: save points that are
still to be removed, captures still to be closed, iterations still to be checked. Typing is the
greatest fixed point of the rules for single instructions, so that loops type themselves. -/
namespace PatternMachine

/-- A construct that control is inside of. -/
inductive Scope where
  | mark (target : Address)
  | group (register : CaptureRegister)
  | iteration (register : PositionRegister)
  deriving DecidableEq

/-- The open constructs, the innermost first. -/
abbrev Context := List Scope

/-- The function stays within the range it is given. -/
def ConsumeFunction.Bounded {E : Type} (f : ConsumeFunction E) : Prop :=
  ∀ input rest position, rest.start ≤ rest.stop → rest.stop ≤ input.size →
    f input rest = some position → rest.start ≤ position ∧ position ≤ rest.stop

/-- What code may call: functions at their entries, and consume functions. -/
structure Callees (E : Type) where
  functions : Address → Prop
  consumers : ConsumeFunction E → Prop

/-- No consume function leaves its range. -/
def Callees.Reliable {E : Type} (callees : Callees E) : Prop :=
  ∀ f, callees.consumers f → f.Bounded

variable {E : Type} (p : Program E) (callees : Callees E)

/-- The rule of an operation at `i`, where `d` is open; `next` types the points that follow. -/
def Operation.Typed (next : Nat → Context → Prop) (i : Nat) (d : Context) : Operation → Prop
  | .nop comment => (∀ r, comment = some r → r.index < p.strings.size) ∧ next (i + 1) d
  | .branch target => next target.index d
  | .condBranch condition target =>
    condition.index < p.registers.bools ∧ next target.index d ∧ next (i + 1) d
  | .save target => next target.index d ∧ (next (i + 1) d ∨ next (i + 1) (.mark target :: d))
  | .clear => ∃ target d', d = .mark target :: d' ∧ next (i + 1) d'
  | .clearThrough target => ∃ d', d = .mark target :: d' ∧ next (i + 1) d'
  | .call target => callees.functions target ∧ next (i + 1) d
  | .ret => d = []
  | .accept | .fail => True
  | .consume _ => next (i + 1) d
  | .consumeBy function =>
    ∃ f, p.consumeFunctions[function.index]? = some f ∧ callees.consumers f ∧ next (i + 1) d
  | .matchElement element => element.index < p.elements.size ∧ next (i + 1) d
  | .matchPredicate predicate => predicate.index < p.predicates.size ∧ next (i + 1) d
  | .movePosition register =>
    register.index < p.registers.positions ∧ next (i + 1) (.iteration register :: d)
  | .comparePosition register condition =>
    register.index < p.registers.positions ∧ condition.index < p.registers.bools ∧
      ∃ d', d = .iteration register :: d' ∧
        p.operation? (i + 1) = some (.condBranch condition ⟨i + 3⟩) ∧ next (i + 1) d'
  | .beginCapture register =>
    register.index < p.registers.captures ∧ next (i + 1) (.group register :: d)
  | .endCapture register =>
    register.index < p.registers.captures ∧ ∃ d', d = .group register :: d' ∧ next (i + 1) d'
  | .backreference register => register.index < p.registers.captures ∧ next (i + 1) d
  | .invalid | .saveAddress _ | .restore | .abort _ | .assertion _ _ | .print _ => False

theorem Operation.Typed.mono {next next' : Nat → Context → Prop} {i : Nat} {d : Context}
    {op : Operation} (le : ∀ j e, next j e → next' j e) (h : op.Typed p callees next i d) :
    op.Typed p callees next' i d := by
  cases op with
  | nop comment => exact ⟨h.1, le _ _ h.2⟩
  | branch target => exact le _ _ h
  | condBranch condition target => exact ⟨h.1, le _ _ h.2.1, le _ _ h.2.2⟩
  | save target => exact ⟨le _ _ h.1, h.2.imp (le _ _) (le _ _)⟩
  | clear =>
    obtain ⟨target, d', eq, h⟩ := h
    exact ⟨target, d', eq, le _ _ h⟩
  | clearThrough target =>
    obtain ⟨d', eq, h⟩ := h
    exact ⟨d', eq, le _ _ h⟩
  | consumeBy function =>
    obtain ⟨f, known, allowed, h⟩ := h
    exact ⟨f, known, allowed, le _ _ h⟩
  | comparePosition register condition =>
    obtain ⟨bound, bound', d', eq, known, h⟩ := h
    exact ⟨bound, bound', d', eq, known, le _ _ h⟩
  | endCapture register =>
    obtain ⟨bound, d', eq, h⟩ := h
    exact ⟨bound, d', eq, le _ _ h⟩
  | consume distance => exact le _ _ h
  | ret | accept | fail => exact h
  | call target => exact ⟨h.1, le _ _ h.2⟩
  | matchElement element => exact ⟨h.1, le _ _ h.2⟩
  | matchPredicate predicate => exact ⟨h.1, le _ _ h.2⟩
  | movePosition register => exact ⟨h.1, le _ _ h.2⟩
  | beginCapture register => exact ⟨h.1, le _ _ h.2⟩
  | backreference register => exact ⟨h.1, le _ _ h.2⟩
  | _ => exact h.elim

namespace Program

/-- The rule of the instruction at a point. -/
def TypedBy (next : Nat → Context → Prop) (i : Nat) (d : Context) : Prop :=
  ∃ op, p.operation? i = some op ∧ op.Typed p callees next i d

/-- Following the rules from a point, nothing is met but typed points and exits. -/
def Typed (exits : Nat → Context → Prop) (i : Nat) (d : Context) : Prop :=
  ∃ points : Nat → Context → Prop, points i d ∧
    ∀ j e, points j e → exits j e ∨ p.TypedBy callees points j e

variable {p callees} {exits exits' : Nat → Context → Prop} {i : Nat} {d : Context}

theorem TypedBy.mono : Rule.Monotone (p.TypedBy callees) := by
  rintro next next' le i d ⟨op, known, typed⟩
  exact ⟨op, known, typed.mono p callees le⟩

namespace Typed

theorem exit (h : exits i d) : p.Typed callees exits i d := Upheld.exit h

/-- To type a point, it may be taken as typed behind its own instruction. -/
theorem loop (h : p.TypedBy callees
    (p.Typed callees fun j e => exits j e ∨ (j = i ∧ e = d)) i d) :
    p.Typed callees exits i d :=
  Upheld.loop TypedBy.mono h

theorem widen (h : p.Typed callees exits i d) (le : ∀ j e, exits j e → exits' j e) :
    p.Typed callees exits' i d :=
  Upheld.widen TypedBy.mono h le

theorem step (h : p.TypedBy callees (p.Typed callees exits) i d) :
    p.Typed callees exits i d :=
  Upheld.step TypedBy.mono h

/-- A typed point that is no exit obeys the rule of its instruction. -/
theorem rule (h : p.Typed callees (fun _ _ => False) i d) :
    p.TypedBy callees (p.Typed callees fun _ _ => False) i d :=
  Upheld.right TypedBy.mono h

end Typed

end Program

end PatternMachine

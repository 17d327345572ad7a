import PatternMachine.Proofs.Outcome.Piece
import PatternMachine.Proofs.Safety.Upheld

/-! Atomic groups and assertions enclose their bodies: in front of the body they save where a failing
body is caught, and behind it they clear everything down to there. A control point is at a stage, which
says what encloses it; the rules of the instructions lead from stage to stage. -/
namespace PatternMachine

/-- An atomic group or an assertion whose `CLEAR_THROUGH` stands at `mid`. -/
inductive Enclosure where
  | atomic (mid : Nat)
  | assertion (kind : Lookahead) (mid : Nat)

namespace Enclosure

/-- The address of the `CLEAR_THROUGH`. -/
def mid : Enclosure → Nat
  | atomic mid => mid
  | assertion _ mid => mid

/-- The address where a failing body is caught. -/
def catching : Enclosure → Address
  | atomic mid => ⟨mid + 2⟩
  | assertion kind mid => ⟨Shape.interception kind mid⟩

/-- The address behind the construct. -/
def done : Enclosure → Address
  | atomic mid => ⟨mid + 3⟩
  | assertion _ mid => ⟨mid + 4⟩

/-- The instruction that leaves a construct which has succeeded. A negative assertion succeeds when its
body has been caught. -/
def exit : Enclosure → Nat
  | atomic mid => mid + 1
  | assertion .positive mid => mid + 1
  | assertion .negative mid => mid + 3

/-- What stands in front of the address where the body is caught, and there. -/
def tail : Enclosure → Operation × Operation
  | atomic mid => (.branch ⟨mid + 3⟩, .fail)
  | assertion .positive _ => (.fail, .clear)
  | assertion .negative _ => (.fail, .fail)

/-- How many save points an assertion puts below the one that catches its body. -/
def lead : Enclosure → Nat
  | atomic _ => 0
  | assertion _ _ => 1

end Enclosure

namespace Program

variable {E : Type} (p : Program E)

/-- What stands at `lo`, in front of the body. -/
def Opens (lo : Nat) : Enclosure → Prop
  | .atomic mid => p.operation? lo = some (.save ⟨mid + 2⟩)
  | .assertion kind mid =>
    p.operation? lo = some (.save ⟨mid + 4⟩) ∧
      p.operation? (lo + 1) = some (.save ⟨Shape.interception kind mid⟩)

/-- What stands behind the body. -/
def Closes : Enclosure → Prop
  | .atomic mid =>
    p.operation? mid = some (.clearThrough ⟨mid + 2⟩) ∧
      p.operation? (mid + 1) = some (.branch ⟨mid + 3⟩) ∧ p.operation? (mid + 2) = some .fail
  | .assertion kind mid =>
    p.operation? mid = some (.clearThrough ⟨Shape.interception kind mid⟩) ∧ Shape.settled p kind mid

/-- Code that starts with a save point ends in front of the address. -/
def Behind (a : Address) : Prop :=
  ∃ lo b, lo < a.index ∧ p.operation? lo = some (.save b) ∧ p.Closed True lo a.index

/-- Where jumps go: behind a construct, or back to where one starts. -/
def Landing (a : Address) : Prop :=
  p.Behind a ∨ (∃ b, p.operation? a.index = some (.save b)) ∨
    ∃ comment, p.operation? a.index = some (.nop comment)

variable {p} {a : Address} {e e' : Enclosure} {lo hi : Nat} {body : Shape}

theorem encloses_of_atomic (placed : Shape.atomic p body lo hi) :
    ∃ mid, body (lo + 1) mid ∧ p.Opens lo (.atomic mid) ∧ p.Closes (.atomic mid) ∧
      hi = (Enclosure.atomic mid).done.index := by
  obtain ⟨mid, save, inner, clear, leave, fail, end_⟩ := placed
  exact ⟨mid, inner, save, ⟨clear, leave, fail⟩, end_⟩

theorem encloses_of_lookahead {kind : Lookahead} (placed : Shape.lookahead p kind body lo hi) :
    ∃ mid, body (lo + 2) mid ∧ p.Opens lo (.assertion kind mid) ∧ p.Closes (.assertion kind mid) ∧
      hi = (Enclosure.assertion kind mid).done.index := by
  obtain ⟨mid, save, save', inner, clear, settled, end_⟩ := placed
  exact ⟨mid, inner, ⟨save, save'⟩, ⟨clear, settled⟩, end_⟩

theorem Leftover.behind (h : p.Leftover a) : p.Behind a := by
  obtain ⟨lo, lt, save, closed⟩ := h
  exact ⟨lo, a, lt, save, closed⟩

/-- What is removed with a `CLEAR_THROUGH`, and what stands between the two, is not behind code of its
own: that would enclose the instruction but not its target. -/
theorem not_behind {i : Nat} {target : Address} (clears : p.operation? i = some (.clearThrough target))
    (lt : i < a.index) (le : a.index ≤ target.index)
    (between : ∀ j b, i < j → j < a.index → p.operation? j ≠ some (.save b)) : ¬p.Behind a := by
  rintro ⟨lo, b, below, saved, closed⟩
  rcases Nat.lt_or_ge i lo with behind | before
  · exact between lo b behind below saved
  · exact absurd (closed.clears i target before lt clears) (Nat.not_lt.mpr le)

namespace Closes

theorem clears (h : p.Closes e) : p.operation? e.mid = some (.clearThrough e.catching) := by
  cases e with
  | atomic mid => exact h.1
  | assertion kind mid => exact h.1

theorem mid_lt_catching (e : Enclosure) : e.mid < e.catching.index := by
  cases e with
  | atomic mid => exact Nat.lt_add_of_pos_right (Nat.succ_pos 1)
  | assertion kind mid =>
    cases kind <;> simp only [Enclosure.mid, Enclosure.catching, Shape.interception] <;> omega

/-- Nothing is saved between the instruction and its target. -/
theorem between (h : p.Closes e) (j : Nat) (b : Address) (above : e.mid < j)
    (below : j < e.catching.index) : p.operation? j ≠ some (.save b) := by
  cases e with
  | atomic mid =>
    simp only [Enclosure.mid, Enclosure.catching] at above below
    obtain rfl : j = mid + 1 := by omega
    simp [h.2.1]
  | assertion kind mid =>
    obtain ⟨-, settled⟩ := h
    cases kind with
    | positive =>
      simp only [Enclosure.mid, Enclosure.catching, Shape.interception] at above below
      obtain rfl : j = mid + 1 := by omega
      simp [settled.1]
    | negative =>
      simp only [Enclosure.mid, Enclosure.catching, Shape.interception] at above below
      obtain rfl | rfl : j = mid + 1 ∨ j = mid + 2 := by omega
      · simp [settled.1]
      · simp [settled.2.1]

theorem catching_not_behind (h : p.Closes e) : ¬p.Behind e.catching :=
  not_behind h.clears (mid_lt_catching e) (Nat.le_refl _) h.between

/-- Nothing that is saved resumes at the exit, but what catches the body of a negative assertion. -/
theorem exit_not_behind (h : p.Closes e) : ¬p.Behind ⟨e.exit⟩ := by
  cases e with
  | atomic mid =>
    refine not_behind h.clears (Nat.lt_succ_self mid) (Nat.le_succ _) fun j b above below => ?_
    exact absurd below (Nat.not_lt.mpr above)
  | assertion kind mid =>
    cases kind with
    | positive =>
      refine not_behind h.clears (Nat.lt_succ_self mid) (Nat.le_succ _) fun j b above below => ?_
      exact absurd below (Nat.not_lt.mpr above)
    | negative => exact h.catching_not_behind

/-- The exit stands behind the `CLEAR_THROUGH`, or where the body is caught and a failure in front. -/
theorem exit_cases (h : p.Closes e) : e.exit = e.mid + 1 ∨
    e.catching.index = e.exit ∧ ∃ i, e.exit = i + 1 ∧ p.operation? i = some .fail := by
  cases e with
  | atomic mid => exact .inl rfl
  | assertion kind mid =>
    cases kind with
    | positive => exact .inl rfl
    | negative => exact .inr ⟨rfl, mid + 2, rfl, h.2.2.1⟩

/-- The exit is a jump or a failure. -/
theorem exit_operation (h : p.Closes e) :
    p.operation? e.exit = some (.branch e.done) ∨ p.operation? e.exit = some .fail := by
  cases e with
  | atomic mid => exact .inl h.2.1
  | assertion kind mid =>
    cases kind with
    | positive => exact .inr h.2.1
    | negative => exact .inr h.2.2.2

/-- No jump goes to the exit. -/
theorem exit_not_landing (h : p.Closes e) : ¬p.Landing ⟨e.exit⟩ := by
  rintro (behind | ⟨b, save⟩ | ⟨comment, nop⟩)
  · exact h.exit_not_behind behind
  · rcases h.exit_operation with known | known <;> cases save.symm.trans known
  · rcases h.exit_operation with known | known <;> cases nop.symm.trans known

theorem tail (h : p.Closes e) : p.operation? (e.catching.index - 1) = some e.tail.1 ∧
    p.operation? e.catching.index = some e.tail.2 := by
  cases e with
  | atomic mid => exact ⟨h.2.1, h.2.2⟩
  | assertion kind mid =>
    cases kind with
    | positive => exact ⟨h.2.1, h.2.2.1⟩
    | negative => exact ⟨h.2.2.1, h.2.2.2⟩

/-- Two constructs that catch their bodies at one address are one. -/
theorem eq_of_catching (h : p.Closes e) (h' : p.Closes e') (same : e.catching = e'.catching) :
    e = e' := by
  obtain ⟨before, there⟩ := h.tail
  obtain ⟨before', there'⟩ := h'.tail
  rw [same] at before there
  have tails : e.tail = e'.tail := Prod.ext (Option.some.inj (before.symm.trans before'))
    (Option.some.inj (there.symm.trans there'))
  have same : e.catching.index = e'.catching.index := congrArg Handle.index same
  -- The two instructions tell the constructs apart.
  rcases e with mid | ⟨kind, mid⟩ <;> rcases e' with mid' | ⟨kind', mid'⟩
  · exact congrArg Enclosure.atomic (Nat.add_right_cancel same)
  · cases kind' <;> cases tails
  · cases kind <;> cases tails
  · cases kind <;> cases kind' <;> first | exact congrArg _ (Nat.add_right_cancel same) | cases tails

end Closes

end Program

/-! ### Stages -/

/-- Where control is: in the bodies of these constructs, the innermost first; behind the first of the two
instructions that open an assertion; or in an assertion whose body is done. -/
inductive Stage where
  | inside (bodies : List Enclosure)
  | entered (kind : Lookahead) (mid : Nat) (bodies : List Enclosure)
  | settled (bodies : List Enclosure)

/-- The constructs whose bodies control is in. -/
def Stage.bodies : Stage → List Enclosure
  | inside d => d
  | entered _ _ d => d
  | settled d => d

/-- Nothing that is around a construct catches where it does. -/
def Enclosure.Apart (e : Enclosure) (bodies : List Enclosure) : Prop :=
  ∀ e' ∈ bodies, e'.catching ≠ e.catching

/-- The stage behind the `CLEAR_THROUGH`. -/
def Enclosure.settle (e : Enclosure) (bodies : List Enclosure) : Stage :=
  match e with
  | .atomic _ => .inside bodies
  | .assertion _ _ => .settled bodies

variable {E : Type} (p : Program E) (entries : Address → Prop)

/-- The stages in which a `SAVE` at `i` is right: it starts an alternative, or opens a construct. -/
inductive Stage.Saves (next : Nat → Stage → Prop) (i : Nat) (target : Address) : Stage → Prop
  | alternative {d : List Enclosure} : p.Behind target → next target.index (.inside d) →
    next (i + 1) (.inside d) → Saves next i target (.inside d)
  | atomic {mid : Nat} {d : List Enclosure} : p.Opens i (.atomic mid) → p.Closes (.atomic mid) →
    target = (Enclosure.atomic mid).catching → (Enclosure.atomic mid).Apart d →
    next target.index (.inside d) → next (i + 1) (.inside (.atomic mid :: d)) →
    Saves next i target (.inside d)
  | assertion {kind : Lookahead} {mid : Nat} {d : List Enclosure} :
    p.Opens i (.assertion kind mid) → p.Closes (.assertion kind mid) →
    target = (Enclosure.assertion kind mid).done → p.Behind target →
    next target.index (.inside d) → next (i + 1) (.entered kind mid d) →
    Saves next i target (.inside d)
  | catching {kind : Lookahead} {mid : Nat} {d : List Enclosure} :
    target = (Enclosure.assertion kind mid).catching → (Enclosure.assertion kind mid).Apart d →
    next target.index (.settled d) → next (i + 1) (.inside (.assertion kind mid :: d)) →
    Saves next i target (.entered kind mid d)

/-- The rule of an operation at `i`, where control is at a stage; `next` holds of the points that
follow. -/
def Operation.Staged (next : Nat → Stage → Prop) (i : Nat) (σ : Stage) : Operation → Prop
  | .nop _ | .consume _ | .consumeBy _ | .matchElement _ | .matchPredicate _ | .movePosition _
  | .comparePosition _ _ | .beginCapture _ | .endCapture _ | .backreference _ =>
    ∃ d, σ = .inside d ∧ next (i + 1) (.inside d)
  | .branch target => ∃ d, σ = .inside d ∧ p.Landing target ∧ next target.index (.inside d)
  | .condBranch _ target =>
    ∃ d, σ = .inside d ∧ p.Landing target ∧ next target.index (.inside d) ∧ next (i + 1) (.inside d)
  | .save target => σ.Saves p next i target
  | .clear => ∃ d, σ = .settled d ∧ next (i + 1) (.inside d)
  | .clearThrough target =>
    ∃ e d, σ = .inside (e :: d) ∧ target = e.catching ∧ i = e.mid ∧ p.Closes e ∧
      next (i + 1) (e.settle d)
  | .call target => ∃ d, σ = .inside d ∧ entries target ∧ next (i + 1) (.inside d)
  | .ret => σ = .inside []
  | .accept | .fail => True
  | .invalid | .saveAddress _ | .restore | .abort _ | .assertion _ _ | .print _ => False

variable {p entries} {next next' : Nat → Stage → Prop} {i : Nat} {σ : Stage}

theorem Stage.Saves.mono (le : ∀ j e, next j e → next' j e) {target : Address}
    (h : σ.Saves p next i target) : σ.Saves p next' i target := by
  cases h with
  | alternative behind there on => exact .alternative behind (le _ _ there) (le _ _ on)
  | atomic opens closes eq apart there on =>
    exact .atomic opens closes eq apart (le _ _ there) (le _ _ on)
  | assertion opens closes eq behind there on =>
    exact .assertion opens closes eq behind (le _ _ there) (le _ _ on)
  | catching eq apart there on => exact .catching eq apart (le _ _ there) (le _ _ on)

theorem Operation.Staged.mono (le : ∀ j e, next j e → next' j e) {op : Operation}
    (h : op.Staged p entries next i σ) : op.Staged p entries next' i σ := by
  cases op with
  | branch target => exact h.imp fun d h => ⟨h.1, h.2.1, le _ _ h.2.2⟩
  | condBranch condition target => exact h.imp fun d h => ⟨h.1, h.2.1, le _ _ h.2.2.1, le _ _ h.2.2.2⟩
  | save target => exact Stage.Saves.mono le h
  | clear => exact h.imp fun d h => ⟨h.1, le _ _ h.2⟩
  | clearThrough target =>
    obtain ⟨e, d, eq, catching, here, closes, on⟩ := h
    exact ⟨e, d, eq, catching, here, closes, le _ _ on⟩
  | call target => exact h.imp fun d h => ⟨h.1, h.2.1, le _ _ h.2.2⟩
  | ret | accept | fail => exact h
  | invalid | saveAddress | restore | abort | assertion | print => exact h.elim
  | _ => exact h.imp fun d h => ⟨h.1, le _ _ h.2⟩

namespace Program

variable (p entries)

/-- The rule of the instruction at a point. -/
def StagedBy : Rule Stage := fun next i σ =>
  ∃ op, p.operation? i = some op ∧ op.Staged p entries next i σ

/-- Following the instructions from a point at a stage, nothing is met but points at right stages and
exits. -/
abbrev Staged (exits : Nat → Stage → Prop) (i : Nat) (σ : Stage) : Prop :=
  Upheld (p.StagedBy entries) exits i σ

variable {p entries} {exits : Nat → Stage → Prop}

theorem StagedBy.mono : (p.StagedBy entries).Monotone := by
  rintro next next' le i σ ⟨op, known, staged⟩
  exact ⟨op, known, staged.mono le⟩

theorem Staged.step {op : Operation} (known : p.operation? i = some op)
    (staged : op.Staged p entries (p.Staged entries exits) i σ) : p.Staged entries exits i σ :=
  Upheld.step StagedBy.mono ⟨op, known, staged⟩

/-- A point at a right stage that is no exit obeys the rule of its instruction. -/
theorem Staged.rule {op : Operation} (h : p.Staged entries (fun _ _ => False) i σ)
    (known : p.operation? i = some op) :
    op.Staged p entries (p.Staged entries fun _ _ => False) i σ := by
  obtain ⟨op', known', staged⟩ := Upheld.right StagedBy.mono h
  cases known.symm.trans known'
  exact staged

end Program

end PatternMachine

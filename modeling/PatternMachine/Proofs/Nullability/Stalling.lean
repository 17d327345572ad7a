import PatternMachine.Proofs.Layout.Closed
import PatternMachine.Proofs.Safety.Upheld

/-! Where control can get to without moving on in the input. The code of a pattern that cannot match empty
does not let it through to its end, whatever else it contains: at every point on the way, something is
consumed or nothing goes on. -/
namespace PatternMachine

variable {E : Type}

/-- The rule of an operation at `i` for control that does not move on. A call comes back behind itself. -/
def Operation.Stalls (next : Nat → Prop) (i : Nat) : Operation → Prop
  | .branch target => next target.index
  | .condBranch _ target | .save target => next target.index ∧ next (i + 1)
  | .consume distance => distance.index ≠ 0
  | .matchElement _ | .matchPredicate _ | .accept | .fail => True
  | .nop _ | .clear | .clearThrough _ | .call _ | .consumeBy _ | .movePosition _
  | .comparePosition _ _ | .beginCapture _ | .endCapture _ | .backreference _ => next (i + 1)
  | .ret | .invalid | .saveAddress _ | .restore | .abort _ | .assertion _ _ | .print _ => False

theorem Operation.Stalls.mono {next next' : Nat → Prop} {i : Nat} {op : Operation}
    (le : ∀ j, next j → next' j) (h : op.Stalls next i) : op.Stalls next' i := by
  cases op with
  | branch target => exact le _ h
  | condBranch condition target => exact ⟨le _ h.1, le _ h.2⟩
  | save target => exact ⟨le _ h.1, le _ h.2⟩
  | consume distance => exact h
  | matchElement element => trivial
  | matchPredicate predicate => trivial
  | accept => trivial
  | fail => trivial
  | ret | invalid | saveAddress target | restore | abort reason | assertion element condition
  | print message => exact h.elim
  | _ => exact le _ h

namespace Program

variable (p : Program E)

/-- The rule of the instruction at a point, which lies in front of `stop`. Nothing is open anywhere. -/
def StalledBy (stop : Nat) : Rule Unit := fun next i d =>
  i < stop ∧ ∃ op, p.operation? i = some op ∧ op.Stalls (next · d) i

/-- From this point, control that does not move on stays in front of `stop`, up to the exits. -/
def Stalled (stop : Nat) (exits : Nat → Unit → Prop) (i : Nat) : Prop :=
  Upheld (p.StalledBy stop) exits i ()

variable {p} {stop i : Nat} {exits exits' : Nat → Unit → Prop}

theorem StalledBy.mono : (p.StalledBy stop).Monotone := by
  rintro next next' le i d ⟨before, op, known, stalls⟩
  exact ⟨before, op, known, stalls.mono fun j => le j d⟩

namespace Stalled

theorem step (h : p.StalledBy stop (fun j _ => p.Stalled stop exits j) i ()) :
    p.Stalled stop exits i := Upheld.step StalledBy.mono h

theorem widen (h : p.Stalled stop exits i) (le : ∀ j e, exits j e → exits' j e) :
    p.Stalled stop exits' i := Upheld.widen StalledBy.mono h le

/-- At a point that is no exit, the rule of its instruction holds. -/
theorem rule (h : p.Stalled stop exits i) (stays : ¬exits i ()) :
    p.StalledBy stop (fun j _ => p.Stalled stop exits j) i () :=
  (Upheld.unfold StalledBy.mono h).resolve_left stays

end Stalled

end Program

/-- Code of the shape keeps to itself, and control that does not move on gets to its end only if `empty`
says so. -/
structure Shape.Passes (p : Program E) (empty : Bool) (shape : Shape) : Prop where
  closed : shape.Closed p True
  stalled : ∀ lo hi, shape lo hi → ∀ stop exits, hi ≤ stop →
    (empty = true → p.Stalled stop exits hi) → p.Stalled stop exits lo

namespace Shape.Passes

open Program (Stalled)

variable {p : Program E} {shape shape' body : Shape} {empty empty' : Bool} {lo hi stop : Nat}
  {exits : Nat → Unit → Prop}

theorem nothing : Shape.nothing.Passes p true where
  closed := .nothing
  stalled := by
    rintro lo _ rfl stop exits le behind
    exact behind rfl

theorem andThen (h : shape.Passes p empty) (h' : shape'.Passes p empty') :
    (Shape.andThen shape shape').Passes p (empty && empty') where
  closed := h.closed.andThen h'.closed
  stalled := by
    rintro lo hi ⟨mid, first, second⟩ stop exits le behind
    have ordered := (h'.closed mid hi second).le
    refine h.stalled lo mid first stop exits (by omega) fun passes => ?_
    refine h'.stalled mid hi second stop exits le fun passes' => ?_
    exact behind (by rw [passes, passes']; rfl)

/-- One instruction. -/
theorem single {means : Operation → Prop} (closed : (Shape.single p means).Closed p True)
    (h : ∀ op, means op → ∀ next i, (empty = true → next (i + 1)) → op.Stalls next i) :
    (Shape.single p means).Passes p empty where
  closed := closed
  stalled := by
    rintro lo _ ⟨rfl, op, known, meaning⟩ stop exits le behind
    exact .step ⟨by omega, op, known, h op meaning _ lo behind⟩

theorem any : (Shape.single p (· = .consume ⟨1⟩)).Passes p false :=
  .single (.single (by simp) (by simp)) fun _ eq _ _ _ => by cases eq; exact Nat.one_ne_zero

theorem element (e : E) : (Shape.element p e).Passes p false :=
  .single (.element e) fun _ eq _ _ _ => by
    obtain ⟨r, rfl, -⟩ := eq
    trivial

theorem literal (elements : List E) : (Shape.literal p elements).Passes p elements.isEmpty := by
  induction elements with
  | nil => exact nothing
  | cons e rest ih => exact (element e).andThen ih

theorem predicate (f : E → Bool) : (Shape.predicate p f).Passes p false :=
  .single (.predicate f) fun _ eq _ _ _ => by
    obtain ⟨r, rfl, -⟩ := eq
    trivial

theorem consumer (f : ConsumeFunction E) : (Shape.consumer p f).Passes p true :=
  .single (.consumer f) fun _ eq _ _ behind => by
    obtain ⟨r, rfl, -⟩ := eq
    exact behind rfl

theorem backreference (register : CaptureRegister) : (Shape.backreference p register).Passes p true :=
  .single (.backreference register) fun _ eq _ _ behind => by
    obtain ⟨rfl, -⟩ := eq
    exact behind rfl

theorem atomic (h : body.Passes p empty) : (Shape.atomic p body).Passes p empty where
  closed := h.closed.atomic
  stalled := by
    rintro lo _ ⟨mid, save, inner, clear, leave, fail, rfl⟩ stop exits le behind
    have ordered := (h.closed _ _ inner).le
    have failing : p.Stalled stop exits (mid + 2) := .step ⟨by omega, _, fail, trivial⟩
    have entering : p.Stalled stop exits (lo + 1) := by
      refine h.stalled _ _ inner stop exits (by omega) fun passes => ?_
      have leaving : p.Stalled stop exits (mid + 1) := .step ⟨by omega, _, leave, behind passes⟩
      exact .step ⟨by omega, _, clear, leaving⟩
    exact .step ⟨by omega, _, save, failing, entering⟩

/-- The body fails, whether it matches or not. -/
theorem lookahead {kind : Lookahead} (h : body.Passes p empty) :
    (Shape.lookahead p kind body).Passes p true where
  closed := h.closed.lookahead
  stalled := by
    rintro lo _ ⟨mid, save, save', inner, clear, settled, rfl⟩ stop exits le behind
    have ordered := (h.closed _ _ inner).le
    have both : p.Stalled stop exits (mid + 1) ∧ p.Stalled stop exits (interception kind mid) := by
      cases kind with
      | positive =>
        obtain ⟨first, second, third⟩ := settled
        have failing : p.Stalled stop exits (mid + 3) := .step ⟨by omega, _, third, trivial⟩
        exact ⟨.step ⟨by omega, _, first, trivial⟩,
          .step ⟨by simp only [interception]; omega, _, second, failing⟩⟩
      | negative =>
        obtain ⟨first, second, third⟩ := settled
        have failing : p.Stalled stop exits (mid + 2) := .step ⟨by omega, _, second, trivial⟩
        exact ⟨.step ⟨by omega, _, first, failing⟩,
          .step ⟨by simp only [interception]; omega, _, third, trivial⟩⟩
    have clearing : p.Stalled stop exits mid := .step ⟨by omega, _, clear, both.1⟩
    have entering := h.stalled _ _ inner stop exits (by omega) fun _ => clearing
    have second : p.Stalled stop exits (lo + 1) := .step ⟨by omega, _, save', both.2, entering⟩
    exact .step ⟨by omega, _, save, behind rfl, second⟩

/-- Control gets to the exit of a branch if the body lets it through. -/
theorem branch {done : Nat} (h : body.Passes p empty) (placed : Shape.branch p done body lo hi)
    (le : hi ≤ stop) (leaves : empty = true → p.Stalled stop exits done)
    (behind : p.Stalled stop exits hi) : p.Stalled stop exits lo := by
  obtain ⟨mid, save, inner, leave, rfl⟩ := placed
  have ordered := (h.closed _ _ inner).le
  have entering : p.Stalled stop exits (lo + 1) := by
    refine h.stalled _ _ inner stop exits (by omega) fun passes => ?_
    exact .step ⟨by omega, _, leave, leaves passes⟩
  exact .step ⟨by omega, _, save, behind, entering⟩

theorem choice_rule {greedy : Bool} {exit : Nat} (placed : Shape.choice p greedy exit lo hi)
    (le : hi ≤ stop) (leaves : p.Stalled stop exits exit) (behind : p.Stalled stop exits hi) :
    p.StalledBy stop (fun j _ => p.Stalled stop exits j) lo () := by
  cases greedy with
  | true =>
    obtain ⟨save, rfl⟩ := placed
    exact ⟨by omega, _, save, leaves, behind⟩
  | false =>
    obtain ⟨save, leave, rfl⟩ := placed
    have leaving : p.Stalled stop exits (lo + 1) := .step ⟨by omega, _, leave, leaves⟩
    exact ⟨by omega, _, save, behind, leaving⟩

theorem mandatory (h : body.Passes p empty) (n : Nat) :
    (Shape.mandatory body n).Passes p (n == 0 || empty) := by
  induction n with
  | zero => exact nothing
  | succ n ih =>
    have both := h.andThen ih
    have same : (empty && (n == 0 || empty)) = (n + 1 == 0 || empty) := by cases empty <;> simp
    rwa [same] at both

theorem optional {greedy : Bool} {done : Nat} (h : body.Passes p empty) (n : Nat)
    (placed : Shape.optional p greedy done body n lo hi) (le : hi ≤ stop)
    (leaves : p.Stalled stop exits done) (behind : p.Stalled stop exits hi) :
    p.Stalled stop exits lo := by
  induction n generalizing lo with
  | zero =>
    cases placed
    exact behind
  | succ n ih =>
    obtain ⟨first, chosen, second, inner, rest⟩ := placed
    have ordered := (h.closed _ _ inner).le
    have ordered' := (h.closed.optional n second hi rest).le
    have entering := h.stalled _ _ inner stop exits (by omega) fun _ => ih rest
    exact .step (choice_rule chosen (by omega) leaves entering)

theorem upTo {greedy : Bool} (h : body.Passes p empty) (n : Nat) :
    (Shape.upTo p n greedy body).Passes p true where
  closed := h.closed.upTo n
  stalled _ _ placed _ _ le behind := h.optional n placed le (behind rfl) (behind rfl)

theorem iteration {register : PositionRegister} {exit : Nat} (h : body.Passes p empty)
    (placed : Shape.iteration p register exit body lo hi) (le : hi ≤ stop)
    (leaves : p.Stalled stop exits exit) (behind : p.Stalled stop exits hi) :
    p.Stalled stop exits lo := by
  obtain ⟨mid, stuck, start, inner, compare, leave, rfl, -⟩ := placed
  have ordered := (h.closed _ _ inner).le
  have leaving : p.Stalled stop exits (mid + 1) := .step ⟨by omega, _, leave, leaves, behind⟩
  have comparing : p.Stalled stop exits mid := .step ⟨by omega, _, compare, leaving⟩
  have entering := h.stalled _ _ inner stop exits (by omega) fun _ => comparing
  exact .step ⟨by omega, _, start, entering⟩

theorem loop {greedy : Bool} {body : Nat → Shape} (closed : ∀ exit, (body exit).Closed p True)
    (h : ∀ lo hi, body (hi + 1) lo hi → ∀ stop exits, hi + 1 ≤ stop →
      p.Stalled stop exits (hi + 1) → p.Stalled stop exits hi → p.Stalled stop exits lo) :
    (Shape.loop p greedy body).Passes p true where
  closed := .loop closed
  stalled := by
    rintro lo _ ⟨first, last, chosen, inner, again, rfl⟩ stop exits le behind
    have ordered := (closed _ _ _ inner).le
    have chosen_closed : (Shape.choice p greedy (last + 1)).Closed p True := .choice
    have ordered' := (chosen_closed _ _ chosen).le
    -- The jump back leads to the point in question.
    refine Upheld.loop Program.StalledBy.mono ?_
    have leaves : p.Stalled stop (fun j e => exits j e ∨ (j = lo ∧ e = ())) (last + 1) :=
      (behind rfl).widen fun _ _ => .inl
    have back : p.Stalled stop (fun j e => exits j e ∨ (j = lo ∧ e = ())) last :=
      .step ⟨by omega, _, again, .exit (.inr ⟨rfl, rfl⟩)⟩
    exact choice_rule chosen (by omega) leaves (h _ _ inner stop _ le leaves back)

theorem star {greedy nullable : Bool} (h : body.Passes p empty) :
    (Shape.star p greedy nullable body).Passes p true := by
  cases nullable with
  | false =>
    refine loop (fun _ => h.closed) ?_
    intro lo hi inner stop exits le _ behind
    exact h.stalled lo hi inner stop exits (by omega) fun _ => behind
  | true =>
    have closed (register : PositionRegister) (exit : Nat) :
        (Shape.iteration p register exit body).Closed p True := h.closed.iteration
    refine ⟨h.closed.star, ?_⟩
    rintro lo hi ⟨register, placed⟩
    refine (loop (closed register) ?_).stalled lo hi placed
    intro lo hi inner stop exits le leaves behind
    exact h.iteration inner (by omega) leaves behind

theorem repeated {least : Nat} {most : Option Nat} {greedy nullable : Bool}
    (h : body.Passes p empty) :
    (Shape.repeated p least most greedy nullable body).Passes p (least == 0 || empty) := by
  rw [← Bool.and_true (least == 0 || empty)]
  cases most with
  | none => exact (h.mandatory least).andThen h.star
  | some most => exact (h.mandatory least).andThen (h.upTo _)

theorem repetition {amount : Amount} {preference : Preference} {nullable : Bool}
    (h : body.Passes p empty) :
    (Shape.repetition p amount preference nullable body).Passes p (amount.least == 0 || empty) := by
  cases preference with
  | greedy => exact h.repeated
  | reluctant => exact h.repeated
  | possessive => exact h.repeated.atomic

theorem capture {register : CaptureRegister} (h : body.Passes p empty) :
    (Shape.capture p register body).Passes p empty where
  closed := h.closed.capture
  stalled := by
    rintro lo _ ⟨mid, opens, inner, closes, rfl, -⟩ stop exits le behind
    have ordered := (h.closed _ _ inner).le
    have entering : p.Stalled stop exits (lo + 1) := by
      refine h.stalled _ _ inner stop exits (by omega) fun passes => ?_
      exact .step ⟨by omega, _, closes, behind passes⟩
    exact .step ⟨by omega, _, opens, entering⟩

end Shape.Passes

/-! ### Patterns -/

namespace Pattern

open Shape (Passes)

variable {p : Program E} {entry : String → Option Address}

mutual

/-- The code of a pattern lets control through that does not move on only if the pattern can match empty. -/
theorem placed_passes (q : Pattern E) : (q.Placed p entry).Passes p q.canMatchEmpty := by
  cases q with
  | empty => exact .nothing
  | any => exact .any
  | element e => exact .element e
  | literal elements => exact .literal elements
  | predicate f => exact .predicate f
  | consumer f => exact .consumer f
  | concat parts => exact placedParts_passes parts
  | alternation branches =>
    refine ⟨(placed_closed (alternation branches)).mono fun _ => trivial, ?_⟩
    intro lo hi placed stop exits le behind
    exact placedBranches_passes branches lo hi placed le behind
  | repetition amount preference body => exact (placed_passes body).repetition
  | capture index name body => exact (placed_passes body).capture
  | reference name =>
    refine .single (.single (by simp) (by simp)) ?_
    rintro _ ⟨a, rfl, -⟩ next i behind
    exact behind rfl
  | lookahead kind body => exact (placed_passes body).lookahead
  | atomic body => exact (placed_passes body).atomic
  | anchor a =>
    cases a with
    | start => exact .consumer startOfInput
    | stop => exact Passes.any.lookahead
  | backreference index => exact .backreference ⟨index⟩

theorem placedParts_passes (parts : List (Pattern E)) :
    (PlacedParts p entry parts).Passes p (allCanMatchEmpty parts) := by
  cases parts with
  | nil => exact .nothing
  | cons q rest => exact (placed_passes q).andThen (placedParts_passes rest)

theorem placedBranches_passes (branches : List (Pattern E)) (lo hi : Nat)
    (placed : PlacedBranches p entry hi branches lo hi) {stop : Nat} {exits : Nat → Unit → Prop}
    (le : hi ≤ stop) (behind : anyCanMatchEmpty branches = true → p.Stalled stop exits hi) :
    p.Stalled stop exits lo := by
  match branches with
  | [] =>
    obtain ⟨rfl, _, fail, rfl⟩ := placed
    exact .step ⟨by omega, _, fail, trivial⟩
  | [q] =>
    refine (placed_passes q).stalled lo hi placed stop exits le fun passes => behind ?_
    rw [anyCanMatchEmpty, passes, Bool.true_or]
  | q :: q' :: rest =>
    obtain ⟨mid, first, others⟩ := placed
    have ordered := (placedBranches_closed (q' :: rest) mid hi others).le
    have later := placedBranches_passes (q' :: rest) mid hi others le fun passes => behind <| by
      rw [anyCanMatchEmpty, passes, Bool.or_true]
    refine (placed_passes q).branch first (by omega) (fun passes => behind ?_) later
    rw [anyCanMatchEmpty, passes, Bool.true_or]

end

end Pattern

end PatternMachine

import PatternMachine.Proofs.Outcome.Construct

/-! The code of a pattern implements its ways to match, if the functions that it calls implement those of
what it refers to. A loop that is checked for progress must not call anything: a function could enter the
same loop once more, and there is one register for both. -/
namespace PatternMachine

variable {E : Type}

namespace Pattern

mutual

/-- The bodies of the unbounded repetitions that have to be checked for progress. -/
def checkedBodies : Pattern E → List (Pattern E)
  | concat parts => allCheckedBodies parts
  | alternation branches => allCheckedBodies branches
  | repetition amount _ body =>
    (if amount.most = none ∧ body.canMatchEmpty then [body] else []) ++ body.checkedBodies
  | capture _ _ body => body.checkedBodies
  | lookahead _ body => body.checkedBodies
  | atomic body => body.checkedBodies
  | empty | any | element _ | literal _ | predicate _ | consumer _ | reference _ | anchor _
  | backreference _ => []

def allCheckedBodies : List (Pattern E) → List (Pattern E)
  | [] => []
  | q :: rest => q.checkedBodies ++ allCheckedBodies rest

end

/-- At the end of the range there is no further element. -/
theorem outcomes_stop {range : Span} {m : Moment} (inside : m.position ≤ range.stop) :
    Outcomes.lookahead .negative (Outcomes.any range) m = Outcomes.anchor range .stop m := by
  by_cases left : m.position < range.stop
  · have one : Outcomes.any range m = [{ m with position := m.position + 1 }] := if_pos left
    have before : m.position ≠ range.stop := Nat.ne_of_lt left
    simp [Outcomes.lookahead, Outcomes.anchor, one, before]
  · have none : Outcomes.any range m = [] := if_neg left
    have there : m.position = range.stop := Nat.le_antisymm inside (Nat.not_lt.mp left)
    simp [Outcomes.lookahead, Outcomes.anchor, none, there]

theorem outcomes_start {input : Array E} {range : Span} (m : Moment) :
    Outcomes.consumer input range startOfInput m = Outcomes.anchor range .start m := by
  simp only [Outcomes.consumer, startOfInput, Outcomes.anchor]
  by_cases zero : m.position = 0
  · rw [if_pos zero, if_pos zero]
  · rw [if_neg zero, if_neg zero]

end Pattern

variable [DecidableEq E] {s : Search E}

/-- The functions that are entered match in the ways of the calls. -/
def Search.Serves (s : Search E) (entry : String → Option Address) (call : String → Ways) : Prop :=
  ∀ name a, entry name = some a → ∃ hi, s.program.operation? hi = some .ret ∧
    s.Implements s.program.anything a.index hi (call name)

namespace Pattern

variable {entry : String → Option Address} {call : String → Ways}

theorem reference_means (serves : s.Serves entry call) (name : String) :
    ((reference name).Placed s.program entry).Means s (call name) where
  closed := (placed_closed _).mono fun _ => trivial
  implements := by
    rintro lo _ ⟨rfl, op, known, a, rfl, entered⟩ t m stands
    obtain ⟨hi, returns, implements⟩ := serves name a entered
    obtain ⟨t', stands', turns⟩ := Yields.call stands known returns
    exact turns _ (implements t' m stands')

theorem anchor_means (valid : s.range.stop ≤ s.input.size) (a : Anchor) :
    ((anchor a).Placed s.program entry).Means s (.all (Outcomes.anchor s.range a)) := by
  cases a with
  | start =>
    have means := Shape.Means.consumer (s := s) startOfInput_bounded valid
    exact means.congr fun m _ => congrArg Unfolding.ofList (outcomes_start m)
  | stop =>
    have means : (Shape.lookahead s.program .negative (.single _ (· = .consume ⟨1⟩))).Means s
        (Ways.lookahead .negative (.all (Outcomes.any s.range))) := Shape.Means.any.lookahead
    refine means.congr fun m inside => ?_
    rw [Ways.all_lookahead fun _ => rfl]
    exact congrArg Unfolding.ofList (outcomes_stop inside.2)

mutual

/-- The code of a pattern implements its ways to match. -/
theorem placed_means (serves : s.Serves entry call)
    (calls : ∀ name, (call name).Advances s.range.stop true) (q : Pattern E)
    (bounded : q.Consumers ConsumeFunction.Bounded) (valid : s.range.stop ≤ s.input.size)
    (quiet : ∀ body ∈ q.checkedBodies, ¬Entered entry body.references) :
    (q.Placed s.program entry).Means s (q.ways s.input s.range call) := by
  cases q with
  | empty => exact .nothing
  | any => exact .any
  | element e => exact .element e
  | literal elements => exact .literal elements
  | predicate f => exact .predicate f
  | consumer f => exact .consumer bounded valid
  | concat parts => exact parts_means serves calls parts bounded valid quiet
  | alternation branches =>
    exact ⟨(placed_closed (alternation branches)).mono fun _ => trivial,
      fun lo hi => branches_means serves calls branches bounded valid quiet⟩
  | repetition amount preference body =>
    have advances := ways_advance calls body bounded valid
    have inner := placed_means serves calls body bounded valid fun body' member =>
      quiet body' (List.mem_append_right _ member)
    refine inner.repetition advances amount preference fun unbounded nullable => ?_
    have checked : body ∈ (repetition amount preference body).checkedBodies := by
      rw [checkedBodies, if_pos ⟨unbounded, nullable⟩]
      exact List.mem_append_left _ (List.mem_singleton_self body)
    exact (placed_closed body).mono (quiet body checked)
  | capture index name body => exact (placed_means serves calls body bounded valid quiet).capture
  | reference name => exact reference_means serves name
  | lookahead kind body => exact (placed_means serves calls body bounded valid quiet).lookahead
  | atomic body => exact (placed_means serves calls body bounded valid quiet).atomic
  | anchor a => exact anchor_means valid a
  | backreference index => exact .backreference valid

theorem parts_means (serves : s.Serves entry call)
    (calls : ∀ name, (call name).Advances s.range.stop true) (parts : List (Pattern E))
    (bounded : AllConsumers ConsumeFunction.Bounded parts) (valid : s.range.stop ≤ s.input.size)
    (quiet : ∀ body ∈ allCheckedBodies parts, ¬Entered entry body.references) :
    (PlacedParts s.program entry parts).Means s (waysInSequence s.input s.range call parts) := by
  cases parts with
  | nil => exact .nothing
  | cons q rest =>
    have first := placed_means serves calls q bounded.1 valid fun body member =>
      quiet body (List.mem_append_left _ member)
    exact first.andThen <| parts_means serves calls rest bounded.2 valid fun body member =>
      quiet body (List.mem_append_right _ member)

theorem branches_means (serves : s.Serves entry call)
    (calls : ∀ name, (call name).Advances s.range.stop true) (branches : List (Pattern E))
    (bounded : AllConsumers ConsumeFunction.Bounded branches) (valid : s.range.stop ≤ s.input.size)
    (quiet : ∀ body ∈ allCheckedBodies branches, ¬Entered entry body.references) {lo hi : Nat}
    (placed : PlacedBranches s.program entry hi branches lo hi) :
    s.Implements (s.program.footprint lo hi) lo hi
      (alternativeWays s.input s.range call branches) := by
  match branches with
  | [] =>
    exact Shape.Means.fail.implements lo hi placed
  | [q] =>
    have means := placed_means serves calls q bounded.1 valid fun body member =>
      quiet body (List.mem_append_left _ member)
    intro t m stands
    have same : alternativeWays s.input s.range call [q] m = q.ways s.input s.range call m :=
      Unfolding.append_done _
    rw [same]
    exact means.implements lo hi placed t m stands
  | q :: q' :: rest =>
    obtain ⟨next, first, later⟩ := placed
    have means := placed_means serves calls q bounded.1 valid fun body member =>
      quiet body (List.mem_append_left _ member)
    have others := branches_means serves calls (q' :: rest) bounded.2 valid
      (fun body member => quiet body (List.mem_append_right _ member)) later
    exact means.branch first (placedBranches_closed _ _ _ later).le others

end

/-- The code of a pattern without references implements its outcomes. -/
theorem placed_outcomes (q : Pattern E) (bounded : q.Consumers ConsumeFunction.Bounded)
    (valid : s.range.stop ≤ s.input.size) :
    (q.Placed s.program fun _ => none).Means s (.all (q.outcomes s.input s.range)) := by
  have serves : s.Serves (fun _ => none) fun _ _ => .done := nofun
  have means := placed_means serves (fun _ => nofun) q bounded valid fun body _ entered => by
    obtain ⟨name, -, entered⟩ := entered
    cases entered
  exact means.congr fun m _ => ways_eq_outcomes q m

end Pattern

end PatternMachine

import PatternMachine.Proofs.Halting.Construct
import PatternMachine.Proofs.Halting.LeftReach
import PatternMachine.Proofs.Outcome.Grammar

/-! Searches with the program of a grammar end if no production can come back to itself before anything has
been consumed. This needs no condition on loops: they end even if their bodies enter them once more. -/
namespace PatternMachine

variable {E : Type} [DecidableEq E]

namespace Pattern

variable {s : Search E} {entry : String → Option Address}

theorem reference_halts (name : String) :
    ((reference name).Placed s.program entry).Halts s entry [name] true where
  closed := (placed_closed _).mono fun _ => trivial
  exhausts := by
    rintro lo _ ⟨rfl, op, known, a, rfl, entered⟩ t m stands ready
    obtain ⟨hi, returns, exhausts⟩ := ready.now name (List.mem_singleton_self name) a entered
    obtain ⟨t', stands', turns⟩ := Yields.call stands known returns
    obtain ⟨ms, -, yields⟩ := exhausts t' m stands' rfl
    exact ⟨ms, nofun, turns _ yields⟩

mutual

/-- The code of a pattern comes to its end finitely often, if its left references come back. -/
theorem placed_halts (q : Pattern E) (bounded : q.Consumers ConsumeFunction.Bounded)
    (valid : s.range.stop ≤ s.input.size) :
    (q.Placed s.program entry).Halts s entry q.leftReferences q.canMatchEmpty := by
  cases q with
  | empty => exact .of_means .nothing .stay
  | any => exact .of_means .any .any
  | element e => exact .of_means (.element e) (.single _)
  | literal elements => exact .of_means (.literal elements) (.literal elements)
  | predicate f => exact .of_means (.predicate f) (.single f)
  | consumer f => exact .of_means (.consumer bounded valid) (.consumer bounded valid)
  | concat parts => exact parts_halt parts bounded valid
  | alternation branches =>
    exact ⟨(placed_closed (alternation branches)).mono fun _ => trivial,
      fun lo hi placed t m => branches_halt branches bounded valid placed⟩
  | repetition amount preference body =>
    exact (placed_halts body bounded valid).repetition amount preference
  | capture index name body => exact (placed_halts body bounded valid).capture
  | reference name => exact reference_halts name
  | lookahead kind body => exact (placed_halts body bounded valid).lookahead
  | atomic body => exact (placed_halts body bounded valid).atomic
  | anchor a => exact .of_means (anchor_means valid a) (.anchor a)
  | backreference index => exact .of_means (.backreference valid) (.backreference index)

theorem parts_halt (parts : List (Pattern E))
    (bounded : AllConsumers ConsumeFunction.Bounded parts) (valid : s.range.stop ≤ s.input.size) :
    (PlacedParts s.program entry parts).Halts s entry (leftReferencesInSequence parts)
      (allCanMatchEmpty parts) := by
  cases parts with
  | nil => exact .of_means .nothing .stay
  | cons q rest =>
    refine (placed_halts q bounded.1 valid).andThen (parts_halt rest bounded.2 valid)
      (List.subset_append_left _ _) fun nullable => ?_
    rw [leftReferencesInSequence, if_pos nullable]
    exact List.subset_append_right _ _

theorem branches_halt (branches : List (Pattern E))
    (bounded : AllConsumers ConsumeFunction.Bounded branches) (valid : s.range.stop ≤ s.input.size)
    {lo hi : Nat} (placed : PlacedBranches s.program entry hi branches lo hi) {t : Thread}
    {m : Moment} (stands : t.At s lo m)
    (ready : s.Ready entry (alternativeLeftReferences branches) m.position) :
    Exhausts s (s.program.footprint lo hi) hi t (anyCanMatchEmpty branches) (.next t) := by
  have inside := stands.position ▸ stands.within.config.inside.2
  match branches with
  | [] =>
    have nothing : (Shape.single s.program (· = .fail)).Halts s entry [] false :=
      .of_means .fail (.all fun _ _ _ => nofun)
    exact nothing.exhausts lo hi placed t m stands ready
  | [q] =>
    have halts := placed_halts q bounded.1 valid
    have ready' : s.Ready entry q.leftReferences m.position :=
      ready.advance (Nat.le_refl _) inside fun _ => List.subset_append_left _ _
    have same : anyCanMatchEmpty [q] = q.canMatchEmpty := Bool.or_false _
    rw [same]
    exact halts.exhausts lo hi placed t m stands ready'
  | q :: q' :: rest =>
    obtain ⟨next, first, later⟩ := placed
    have halts := placed_halts q bounded.1 valid
    refine halts.branch first (placedBranches_closed _ _ _ later).le stands
      (ready.advance (Nat.le_refl _) inside fun _ => List.subset_append_left _ _) ?_
    intro t' stands'
    exact branches_halt (q' :: rest) bounded.2 valid later stands'
      (ready.advance (Nat.le_refl _) inside fun _ => List.subset_append_right _ _)

end

end Pattern

namespace Grammar

variable {g : Grammar E} {s : Search E} {entry : String → Option Address}

/-- Every function comes back from everywhere. The induction is on what is left of the range, and at one
position on the productions that are left-reached. -/
theorem Placed.returns (placed : g.Placed s.program entry)
    (bounded : ∀ q ∈ g.productions, q.2.Consumers ConsumeFunction.Bounded)
    (acyclic : ∀ name, ¬Relation.TransGen g.LeftReaches name name)
    (valid : s.range.stop ≤ s.input.size) (name : String) (position : Nat)
    (inside : position ≤ s.range.stop) : s.Returns entry name position := by
  generalize left : s.range.stop - position = n
  induction n using Nat.strongRecOn generalizing name position with
  | _ n further =>
    induction name using (leftReaches_wellFounded acyclic).induction with
    | _ name ih =>
      intro a entered
      obtain ⟨body, known, function⟩ := placed.functions name a entered
      obtain ⟨hi, returns, inner, enters⟩ := Yields.function function
      have halts : (body.Placed s.program entry).Halts s entry body.leftReferences
          body.canMatchEmpty := body.placed_halts (bounded _ (mem_of_get? known)) valid
      have ready : s.Ready entry body.leftReferences position := by
        refine ⟨fun callee member => ih callee ⟨body, known, member⟩, fun callee later lt stop => ?_⟩
        have less : s.range.stop - later < n := by omega
        exact further _ less callee later stop rfl
      refine ⟨hi, returns, fun t m stands same => ?_⟩
      obtain ⟨t', stands', turns⟩ := enters t m stands
      obtain ⟨ms, -, yields⟩ := halts.exhausts _ _ inner t' m stands' (same ▸ ready)
      exact ⟨ms, nofun, turns _ yields⟩

end Grammar

/-- A machine with the program of a grammar halts on every input if no production left-reaches itself.
The number of cycles that it takes does not depend on the limits. -/
theorem compiled_grammar_halts {g : Grammar E} {limit : Nat} {p : Program E}
    (compiled : g.compile limit = .ok p)
    (bounded : ∀ q ∈ g.productions, q.2.Consumers ConsumeFunction.Bounded)
    (acyclic : ∀ name, ¬Relation.TransGen g.LeftReaches name name) (input : Array E) (range : Span)
    (valid : range.start ≤ range.stop ∧ range.stop ≤ input.size) (mode : MatchMode) :
    ∃ cycles, ∀ settings : Settings, settings.mode = mode →
      (⟨p, input, range, settings⟩ : Search E).HaltsWithin cycles := by
  obtain ⟨entry, placed, groups⟩ := Grammar.compile_placed compiled
  let s : Search E := ⟨p, input, range, { tracing := true, mode }⟩
  have placed : g.Placed s.program entry := placed
  obtain ⟨a, entered, jumps⟩ := placed.start
  have stands := Search.start_at (s := s) valid.1
  obtain ⟨hi, returns, exhausts⟩ :=
    placed.returns bounded acyclic valid.2 g.start s.range.start valid.1 a entered
  obtain ⟨ms, -, yields⟩ := exhausts _ _ (stands.jump a) rfl
  obtain ⟨y, ⟨k, rfl⟩, answers⟩ := (Yields.branch stands jumps yields).answers rfl rfl
    (Search.accepts_of_ret returns) (Unfolding.ofList_find? _ ms)
  exact ⟨k, fun settings same => Search.haltsWithin (s := s) rfl same rfl answers.final⟩

/-- A production that may be entered from another one before anything is consumed, and a loop that enters
itself behind an element. -/
theorem compiled_grammar_halts_nested :
    let g : Grammar Nat := ⟨"line", [
      ("line", .concat [.repetition .zeroOrOne .greedy (.element 2), .reference "nest"]),
      ("nest", .repetition .zeroOrMore .greedy (.alternation
        [.concat [.element 0, .reference "nest", .element 1], .reference "blank", .empty])),
      ("blank", .repetition .zeroOrMore .reluctant (.alternation [.element 3, .empty]))]⟩
    ∃ p cycles, g.compile 100 = .ok p ∧ ∀ settings : Settings, settings.mode = .whole →
      (⟨p, #[2, 0, 3, 0, 1, 1, 3], ⟨0, 7⟩, settings⟩ : Search Nat).HaltsWithin cycles := by
  intro g
  have bounded : ∀ q ∈ g.productions, q.2.Consumers ConsumeFunction.Bounded := by
    intro q member
    simp only [g, List.mem_cons, List.not_mem_nil, or_false] at member
    rcases member with rfl | rfl | rfl <;> simp [Pattern.Consumers, Pattern.AllConsumers]
  let rank (name : String) : Nat := if name = "line" then 2 else if name = "nest" then 1 else 0
  have acyclic := g.acyclic_of_rank rank (by decide +kernel)
  have accepted : (g.compile 100).toOption.isSome = true := by decide +kernel
  obtain ⟨p, compiled⟩ := exists_ok accepted
  obtain ⟨cycles, halts⟩ := compiled_grammar_halts compiled bounded acyclic
    #[2, 0, 3, 0, 1, 1, 3] ⟨0, 7⟩ (by decide) .whole
  exact ⟨p, cycles, compiled, halts⟩

end PatternMachine

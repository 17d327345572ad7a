import PatternMachine.Proofs.Outcome.Search

/-! A search with the program of a grammar descends into the productions. Where unfolding the grammar tells
all outcomes of the start production, the search ends and answers with the first one that its mode
accepts. Captures are shared by all activations of a production, but each of them closes the start that
it has opened. -/
namespace PatternMachine

variable {E : Type} [DecidableEq E]

namespace Grammar

variable {g : Grammar E} {s : Search E} {entry : String → Option Address}

/-- Nothing that is unfolded goes back. -/
theorem unfold_advances (bounded : ∀ q ∈ g.productions, q.2.Consumers ConsumeFunction.Bounded)
    (valid : s.range.stop ≤ s.input.size) (fuel : Nat) (name : String) :
    (g.unfold s.input s.range fuel name).Advances s.range.stop true := by
  induction fuel generalizing name with
  | zero => exact nofun
  | succ fuel ih =>
    rw [unfold]
    cases known : g.get? name with
    | none => exact nofun
    | some body =>
      exact (Pattern.ways_advance ih body (bounded _ (mem_of_get? known)) valid).weaken

/-- Functions implement what unfolding tells of their productions, whatever the fuel. The induction is on
the fuel: a call inside a function needs less. -/
theorem Placed.serves (placed : g.Placed s.program entry)
    (bounded : ∀ q ∈ g.productions, q.2.Consumers ConsumeFunction.Bounded)
    (quiet : ∀ q ∈ g.productions, ∀ body ∈ q.2.checkedBodies, body.references = [])
    (valid : s.range.stop ≤ s.input.size) (fuel : Nat) :
    s.Serves entry (g.unfold s.input s.range fuel) := by
  induction fuel with
  | zero =>
    intro name a entered
    obtain ⟨body, -, function⟩ := placed.functions name a entered
    obtain ⟨hi, returns, -⟩ := Yields.function function
    exact ⟨hi, returns, fun t m _ => .unknown⟩
  | succ fuel ih =>
    intro name a entered
    obtain ⟨body, known, function⟩ := placed.functions name a entered
    obtain ⟨hi, returns, inner, enters⟩ := Yields.function function
    have member := mem_of_get? known
    have means := body.placed_means ih (unfold_advances bounded valid fuel) (bounded _ member) valid
      fun body' checked => by
        rw [quiet _ member body' checked]
        rintro ⟨name, none, -⟩
        cases none
    refine ⟨hi, returns, fun t m stands => ?_⟩
    obtain ⟨t', stands', turns⟩ := enters t m stands
    have known : g.get? name = some body := known
    rw [unfold, known]
    exact turns _ (means.implements _ _ inner t' m stands')

/-- A thread with the program of a grammar comes to the first outcome that its mode accepts. -/
theorem Placed.answers (placed : g.Placed s.program entry)
    (groups : s.program.registers.captures = g.captureCount)
    (bounded : ∀ q ∈ g.productions, q.2.Consumers ConsumeFunction.Bounded)
    (quiet : ∀ q ∈ g.productions, ∀ body ∈ q.2.checkedBodies, body.references = [])
    (start : s.range.start ≤ s.range.stop) (stop : s.range.stop ≤ s.input.size) {fuel : Nat}
    {answer : Option Moment}
    (found : (g.unfold s.input s.range fuel g.start
        ⟨s.range.start, .replicate g.captureCount none⟩).find?
      (fun m => s.settings.mode = .anywhere ∨ m.position = s.range.stop) = some answer) :
    ∃ k, (s.after k (.next ⟨s.start.config, []⟩)).Answers answer := by
  obtain ⟨a, entered, jumps⟩ := placed.start
  obtain ⟨hi, returns, implements⟩ := placed.serves bounded quiet stop fuel g.start a entered
  have stands := Search.start_at start
  rw [groups] at stands
  have yields := Yields.branch stands jumps (implements _ _ (stands.jump a))
  obtain ⟨y, ⟨k, rfl⟩, answers⟩ :=
    yields.answers rfl rfl (Search.accepts_of_ret returns) found
  exact ⟨k, answers⟩

end Grammar

/-- The program of a grammar answers with the first outcome of the start production that the mode accepts,
if all of them come out with some fuel. A reference in the body of a loop that is checked for progress is
excluded: the activations of the loop share one register. -/
theorem compiled_grammar_finds_first [Spelled E] {g : Grammar E} {limit : Nat} {p : Program E}
    (compiled : g.compile limit = .ok p)
    (bounded : ∀ q ∈ g.productions, q.2.Consumers ConsumeFunction.Bounded)
    (quiet : ∀ q ∈ g.productions, ∀ body ∈ q.2.checkedBodies, body.references = [])
    (input : Array E) (range : Span) (valid : range.start ≤ range.stop ∧ range.stop ≤ input.size)
    (mode : MatchMode) {fuel : Nat} {ms : List Moment}
    (complete : g.unfold input range fuel g.start
      ⟨range.start, .replicate g.captureCount none⟩ = .ofList ms) :
    p.Answers input range mode
      ((ms.find? fun m => mode = .anywhere ∨ m.position = range.stop).map fun m =>
        ⟨⟨range.start, m.position⟩, m.captures⟩) := by
  obtain ⟨entry, placed, groups⟩ := Grammar.compile_placed compiled
  let s : Search E := ⟨p, input, range, { tracing := true, mode }⟩
  obtain ⟨k, ended⟩ := Grammar.Placed.answers (s := s) placed groups bounded quiet valid.1 valid.2
    (complete ▸ Unfolding.ofList_find? _ _)
  exact Program.answers_of_thread valid rfl ended

/-- Nested brackets with blanks behind them. The group holds what stands in the outermost brackets, though
those inside have used it, too. -/
theorem compiled_grammar_finds_first_brackets :
    let g : Grammar Nat := ⟨"brackets", [
      ("brackets", .alternation [.concat [.element 0, .capture 0 none (.reference "brackets"),
        .element 1, .reference "blanks", .reference "brackets"], .empty]),
      ("blanks", .repetition .zeroOrMore .greedy (.alternation [.element 2, .empty]))]⟩
    ∃ p, g.compile 100 = .ok p ∧
      p.Answers #[0, 0, 1, 2, 1, 0] ⟨0, 6⟩ .anywhere (some ⟨⟨0, 5⟩, [some ⟨1, 4⟩]⟩) ∧
      ∀ log, (Engine.findMatch ⟨p, {}⟩ #[0, 0, 1, 2, 1, 0] ⟨0, 6⟩ .anywhere).result log =
        .ok (.ok (some ⟨⟨0, 5⟩, [some ⟨1, 4⟩]⟩)) := by
  intro g
  have bounded : ∀ q ∈ g.productions, q.2.Consumers ConsumeFunction.Bounded := by
    intro q member
    rcases List.mem_pair.mp member with rfl | rfl
    · exact ⟨⟨trivial, trivial, trivial, trivial, trivial, trivial⟩, trivial, trivial⟩
    · exact ⟨trivial, trivial, trivial⟩
  have quiet : ∀ q ∈ g.productions, ∀ body ∈ q.2.checkedBodies, body.references = [] := by
    intro q member body checked
    rcases List.mem_pair.mp member with rfl | rfl
    · cases checked
    · cases List.mem_singleton.mp checked
      rfl
  have accepted : (g.compile 100).toOption.isSome = true := by decide +kernel
  let ms : List Moment := .replicate 4 ⟨5, [some ⟨1, 4⟩]⟩ ++ [⟨0, [none]⟩]
  have complete : g.unfold #[0, 0, 1, 2, 1, 0] ⟨0, 6⟩ 4 "brackets"
      ⟨0, .replicate g.captureCount none⟩ = .ofList ms := by decide +kernel
  have halts : ∀ p ∈ (g.compile 100).toOption,
      let s : Search Nat := ⟨p, #[0, 0, 1, 2, 1, 0], ⟨0, 6⟩, {}⟩
      (s.runFor 100 s.start).leadsTo fun m => m.status ≠ .inProgress ∧ m.exceeded = none := by
    decide +kernel
  obtain ⟨p, compiled⟩ := exists_ok accepted
  have answers := compiled_grammar_finds_first compiled bounded quiet #[0, 0, 1, 2, 1, 0] ⟨0, 6⟩
    (by decide) .anywhere complete
  obtain ⟨m, ran, halted, clear⟩ := Step.exists_of_leadsTo (halts p (by rw [compiled]; rfl))
  exact ⟨p, compiled, answers, (answers.found {} (by decide) ran halted clear).2⟩

end PatternMachine

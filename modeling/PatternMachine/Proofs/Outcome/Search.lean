import PatternMachine.Proofs.Engine
import PatternMachine.Proofs.Outcome.Pattern

/-! A search with the program of a pattern answers with the first outcome that its mode accepts, unless a
limit stops it. How many cycles and save points suffice does not depend on the limits. -/
namespace PatternMachine

variable {E : Type}

/-- The thread has ended with this outcome, or without one. -/
def Move.Answers : Move → Option Moment → Prop
  | .accepted c, some m => c.position = m.position ∧ c.registers.values = m.captures
  | .failed, none => True
  | _, _ => False

theorem Move.Answers.final {x : Move} {answer : Option Moment} (h : x.Answers answer) :
    x.Final := by
  cases x with
  | next t => exact h.elim
  | accepted c => trivial
  | failed => trivial
  | stuck => exact h.elim

/-- A machine that has gone where its thread ends has halted. -/
theorem Move.Reached.halted {r : SnapshotMachine} {x : Move} (h : x.Reached r) (final : x.Final) :
    r.status ≠ .inProgress := by
  cases x with
  | next t => exact final.elim
  | stuck => exact final.elim
  | accepted c => simp [h.2]
  | failed =>
    have failed : r.status = .failed := h
    simp [failed]

variable [DecidableEq E] {s : Search E}

/-- A thread that comes to the address without callers is accepted there, if its mode allows it. -/
def Search.Accepts (s : Search E) (i : Nat) : Prop :=
  ∀ (t : Thread) m, t.At s i m → t.config.callStack = .empty →
    s.move t = t.obey (s.acceptance t.config)

theorem Search.accepts_of_accept {i : Nat} (known : s.program.operation? i = some .accept) :
    s.Accepts i := fun _ _ stands _ => stands.move known

theorem Search.accepts_of_ret {i : Nat} (known : s.program.operation? i = some .ret) :
    s.Accepts i := by
  intro t m stands alone
  have moved := stands.move known
  simp only [effect, alone] at moved
  exact moved

/-- An acceptance at the end takes the first outcome that the mode accepts. -/
theorem Yields.answers {f : Footprint} {hi : Nat} {t₀ : Thread} {w : Unfolding} {x : Move}
    {answer : Option Moment} (h : Yields s f hi t₀ w x) (start : t₀.savePoints = [])
    (alone : t₀.config.callStack = .empty) (accepts : s.Accepts hi)
    (found : w.find? (fun m => s.settings.mode = .anywhere ∨ m.position = s.range.stop) =
      some answer) : ∃ y, s.Reaches x y ∧ y.Answers answer := by
  induction h with
  | unknown => cases found
  | ends reach =>
    rw [start] at reach
    cases found
    exact ⟨.failed, reach, trivial⟩
  | @comes x t own m rest reach stands leaves _ ih =>
    have moved := accepts t m stands (leaves.calls.trans alone)
    rw [Unfolding.find?] at found
    by_cases right : s.settings.mode = .anywhere ∨ m.position = s.range.stop
    · have taken : ¬(s.settings.mode = .whole ∧ t.config.position ≠ s.range.stop) := by
        rintro ⟨whole, elsewhere⟩
        rcases right with anywhere | there
        · rw [anywhere] at whole
          cases whole
        · exact elsewhere (stands.position.trans there)
      rw [Search.acceptance, if_neg taken] at moved
      rw [if_pos (decide_eq_true right)] at found
      cases found
      exact ⟨_, reach.trans (.move moved), stands.position, stands.captures⟩
    · have refused : s.settings.mode = .whole ∧ t.config.position ≠ s.range.stop := by
        have neither := not_or.mp right
        refine ⟨?_, fun there => neither.2 (stands.position.symm.trans there)⟩
        cases mode : s.settings.mode with
        | anywhere => exact absurd mode neither.1
        | whole => rfl
      rw [Search.acceptance, if_pos refused] at moved
      rw [if_neg (by simpa using right)] at found
      obtain ⟨y, later, answers⟩ := ih t.config.position found
      exact ⟨y, reach.trans (.trans (.move moved) later), answers⟩

/-! ### Limits -/

namespace Search

/-- Limits do not matter to a thread. Nor does tracing, to one that moves when it is traced. -/
theorem move_of_traced {s' : Search E} {t : Thread}
    (same : s' = { s with settings := s'.settings }) (mode : s'.settings.mode = s.settings.mode)
    (traces : s.settings.tracing = true) (goes : s.move t ≠ .stuck) : s'.move t = s.move t := by
  obtain ⟨inside, i, op, fetched, decoded, moved⟩ := move_unstuck goes
  have known : s.program.operation? t.config.pc.index = some op := by
    simp [Program.operation?, fetched, decoded, Except.toOption]
  obtain ⟨p, input, range, settings⟩ := s
  obtain ⟨p', input', range', settings'⟩ := s'
  cases same
  rw [moved] at goes ⊢
  rw [move_of_operation (s := ⟨p, input, range, settings'⟩) inside known]
  simp only at mode traces
  cases op with
  | nop comment =>
    simp only [effect, if_pos traces] at goes ⊢
    cases text : string? ⟨p, input, range, settings⟩ comment with
    | error f => rw [text] at goes; exact absurd rfl goes
    | ok spelled =>
      have text' : string? ⟨p, input, range, settings'⟩ comment = .ok spelled := text
      simp only [text']
      cases spelled <;> split <;> rfl
  | ret =>
    simp only [effect, acceptance, mode]
  | accept => simp only [effect, acceptance, mode]
  | _ => rfl

theorem after_of_traced {s' : Search E} {n : Nat} {x : Move}
    (same : s' = { s with settings := s'.settings }) (mode : s'.settings.mode = s.settings.mode)
    (traces : s.settings.tracing = true) (final : (s.after n x).Final) :
    s'.after n x = s.after n x := by
  induction n generalizing x with
  | zero => rw [after_zero, after_zero]
  | succ n ih =>
    cases x with
    | next t =>
      rw [after_next] at final ⊢
      have goes : s.move t ≠ .stuck := by
        intro stuck
        rw [stuck, after_end _ (by simp)] at final
        exact final
      rw [move_of_traced same mode traces goes, ih final, after_next]
    | _ => rw [after_end _ (by simp), after_end _ (by simp)]

/-- A machine halts in time if its thread ends, and there, unless a limit below has stopped it. -/
theorem runFor_final {k : Nat} (final : (s.after k (.next ⟨s.start.config, []⟩)).Final) :
    ∃ m r, s.runFor k s.start = .next m ∧ Tracks m r ∧ m.status ≠ .inProgress ∧
      (s.Stopped k k m.status m.exceeded ∨
        m.exceeded = none ∧ (s.after k (.next ⟨s.start.config, []⟩)).Reached r) := by
  have there : s.copyingStart.thread = ⟨s.start.config, []⟩ := rfl
  rw [← there] at final ⊢
  obtain ⟨r, ran, result⟩ := copyingRunFor_after (n := k) rfl final
  obtain ⟨m, ran', tracks⟩ := (Tracks.start s).runFor_next ran
  refine ⟨m, r, ran', tracks, ?_⟩
  rw [tracks.status, tracks.exceeded]
  rcases result with stopped | ⟨-, lt⟩ | ⟨reached, kept⟩
  · have stopped : s.Stopped (0 + k) (0 + k) r.status r.exceeded := stopped
    rw [Nat.zero_add] at stopped
    exact ⟨by simp [stopped.1], .inl stopped⟩
  · exact absurd lt (Nat.lt_irrefl k)
  · exact ⟨reached.halted final, .inr ⟨kept, reached⟩⟩

end Search

omit [DecidableEq E] in
/-- A machine gives the answer of the thread that it has followed to its end. -/
theorem Move.Answers.answer {x : Move} {answer : Option Moment} {m : Machine} {r : SnapshotMachine}
    (answers : x.Answers answer) (reached : x.Reached r) (tracks : Tracks m r)
    (exceeded : m.exceeded = none) (start : Nat) :
    m.answer start = .ok (answer.map fun a => ⟨⟨start, a.position⟩, a.captures⟩) := by
  cases x with
  | next t => exact answers.elim
  | stuck => exact answers.elim
  | accepted c =>
    obtain ⟨here, accepted⟩ := reached
    cases answer with
    | none => exact answers.elim
    | some a =>
      obtain ⟨position, captures⟩ := answers
      have config : m.config = c := tracks.config.trans here
      have accepted : m.status = .accepted := tracks.status.trans accepted
      subst config
      have position : m.position = a.position := position
      have captures : m.captures = a.captures := captures
      simp only [Machine.answer, exceeded, accepted, position, captures, if_true, Option.map_some]
  | failed =>
    have failed : m.status = .failed := tracks.status.trans reached
    cases answer with
    | some a => exact answers.elim
    | none => simp [Machine.answer, exceeded, failed]

omit [DecidableEq E] in
/-- The thread that starts a search. -/
theorem Search.start_at (valid : s.range.start ≤ s.range.stop) :
    Thread.At ⟨s.start.config, []⟩ s 0
      ⟨s.range.start, .replicate s.program.registers.captures none⟩ where
  pc := rfl
  position := rfl
  captures := by simp [Machine.config, start, Registers.initial, Registers.values]
  within := s.start_within valid

theorem Pattern.Compiled.answers {q : Pattern E} {hi : Nat} (compiled : q.Compiled s.program hi)
    (bounded : q.Consumers ConsumeFunction.Bounded) (start : s.range.start ≤ s.range.stop)
    (stop : s.range.stop ≤ s.input.size) :
    ∃ k, (s.after k (.next ⟨s.start.config, []⟩)).Answers
      (q.firstOutcome s.input s.range s.settings.mode) := by
  have implements := (q.placed_outcomes bounded stop).implements 0 hi compiled.placed
  have stands := Search.start_at start
  rw [compiled.groups] at stands
  have accepts := Search.accepts_of_accept compiled.accepts
  obtain ⟨y, ⟨k, rfl⟩, answers⟩ :=
    (implements _ _ stands).answers rfl rfl accepts (Unfolding.ofList_find? _ _)
  exact ⟨k, answers⟩

/-- The position is in the range, and what the groups hold lies before it. -/
structure Moment.Within (m : Moment) (range : Span) : Prop where
  start : range.start ≤ m.position
  stop : m.position ≤ range.stop
  captures : ∀ span, some span ∈ m.captures →
    range.start ≤ span.start ∧ span.start ≤ span.stop ∧ span.stop ≤ m.position

/-- The machine halts within so many cycles; if not by itself, then because a limit is smaller. -/
def Search.HaltsWithin (s : Search E) (cycles : Nat) : Prop :=
  ∃ m, s.runFor cycles s.start = .next m ∧ m.status ≠ .inProgress ∧
    (m.exceeded = none ∨ s.Stopped cycles cycles m.status m.exceeded)

theorem Search.haltsWithin_of_final {k : Nat}
    (final : (s.after k (.next ⟨s.start.config, []⟩)).Final) : s.HaltsWithin k := by
  obtain ⟨m, r, ran, -, halted, stopped | ⟨clear, -⟩⟩ := runFor_final final
  · exact ⟨m, ran, halted, .inr stopped⟩
  · exact ⟨m, ran, halted, .inl clear⟩

/-- A machine halts whose thread ends, whatever the limits are. -/
theorem Search.haltsWithin {s' : Search E} {k : Nat} (same : s' = { s with settings := s'.settings })
    (mode : s'.settings.mode = s.settings.mode) (traces : s.settings.tracing = true)
    (final : (s.after k (.next ⟨s.start.config, []⟩)).Final) : s'.HaltsWithin k := by
  have goes : s'.after k (.next ⟨s.start.config, []⟩) = s.after k (.next ⟨s.start.config, []⟩) :=
    after_of_traced same mode traces final
  have there : s'.start.config = s.start.config := by rw [same]; rfl
  rw [← goes, ← there] at final
  exact haltsWithin_of_final final

/-! ### Answers -/

/-- What may be said of a search that comes to an answer within a number of cycles: the answer, unless its
machine has been stopped by a limit that is smaller, or is still in progress when its counter is full. -/
def Search.Admits (s : Search E) (cycles : Nat) (answer : Option Match) :
    Except Fault (Except MatchError (Option Match)) → Prop
  | .ok (.ok found) => found = answer
  | .ok (.error (.cycleLimitExceeded limit)) =>
    s.EndsBy (.cycleLimitExceeded limit) ∧ s.settings.cycleLimit = some limit ∧ limit < cycles
  | .ok (.error (.backtrackLimitExceeded most)) =>
    s.EndsBy (.backtrackLimitExceeded most) ∧ s.settings.maxSavePoints = most ∧ most < cycles
  | .error f => s.Outlasts ∧ f = .additionOverflow ∧ Search.countableCycles < cycles

/-- The machine halts within a number of cycles. Wherever it does so by itself, it gives the answer. -/
structure Search.AnswersWithin (s : Search E) (cycles : Nat) (answer : Option Match) : Prop where
  halts : s.HaltsWithin cycles
  answers : ∀ n m, s.runFor n s.start = .next m → m.status ≠ .inProgress → m.exceeded = none →
    m.answer s.range.start = .ok answer

/-- Searches with a program come to an answer. There is a number of cycles within which the machine does so,
whatever the settings are, and an engine says what this admits. -/
def Program.Answers [Spelled E] (p : Program E) (input : Array E) (range : Span) (mode : MatchMode)
    (answer : Option Match) : Prop :=
  ∃ cycles, ∀ settings : Settings,
    let s : Search E := ⟨p, input, range, { settings with mode }⟩
    s.AnswersWithin cycles answer ∧
      ∀ log, s.Admits cycles answer ((Engine.findMatch ⟨p, settings⟩ input range mode).result log)

/-- Searches with a program find something. -/
def Program.Accepts [Spelled E] (p : Program E) (input : Array E) (range : Span) (mode : MatchMode) :
    Prop :=
  ∃ found, p.Answers input range mode (some found)

theorem Search.answersWithin {k : Nat} {answer : Option Moment}
    (ended : (s.after k (.next ⟨s.start.config, []⟩)).Answers answer) :
    s.AnswersWithin k (answer.map fun m => ⟨⟨s.range.start, m.position⟩, m.captures⟩) where
  halts := haltsWithin_of_final ended.final
  answers n m ran halted clear := by
    obtain ⟨m', r, ran', tracks, halted', result⟩ := runFor_final ended.final
    obtain rfl := halted_unique ran halted ran' halted'
    rcases result with ⟨-, ⟨limit, -, -, exceeded⟩ | ⟨-, exceeded⟩⟩ | ⟨-, reached⟩
    · rw [clear] at exceeded; cases exceeded
    · rw [clear] at exceeded; cases exceeded
    · exact ended.answer reached tracks clear s.range.start

/-- A run comes to the answer of its thread, unless its machine is stopped or outlasts its counter. -/
theorem Search.run_admits {k : Nat} {answer : Option Moment}
    (ended : (s.after k (.next ⟨s.start.config, []⟩)).Answers answer) :
    s.Admits k (answer.map fun m => ⟨⟨s.range.start, m.position⟩, m.captures⟩)
      ((s.run s.start).answer s.range.start) := by
  obtain ⟨m, r, ran, tracks, halted, result⟩ := runFor_final ended.final
  rcases run_or_outlasts ran halted with ends | ⟨lt, outlasts, announced, overflow⟩
  · rw [ends, Step.answer]
    rcases result with ⟨failed, ⟨limit, known, lt, exceeded⟩ | ⟨lt, exceeded⟩⟩ | ⟨clear, reached⟩
    · simp only [Machine.answer, exceeded]
      exact ⟨⟨k, m, ran, failed, exceeded⟩, known, lt⟩
    · simp only [Machine.answer, exceeded]
      exact ⟨⟨k, m, ran, failed, exceeded⟩, rfl, lt⟩
    · rw [ended.answer reached tracks clear]
      rfl
  · rw [overflow]
    exact ⟨outlasts, rfl, lt⟩

/-- A program whose threads come to an answer comes to this answer. -/
theorem Program.answers_of_thread [Spelled E] {p : Program E} {input : Array E} {range : Span}
    {mode : MatchMode} {k : Nat} {answer : Option Moment}
    (valid : range.start ≤ range.stop ∧ range.stop ≤ input.size) {s : Search E}
    (same : s = ⟨p, input, range, { tracing := true, mode }⟩)
    (ended : (s.after k (.next ⟨s.start.config, []⟩)).Answers answer) :
    p.Answers input range mode (answer.map fun m => ⟨⟨range.start, m.position⟩, m.captures⟩) := by
  refine ⟨k, fun settings => ?_⟩
  let s' : Search E := ⟨p, input, range, { settings with mode }⟩
  have goes : s'.after k (.next ⟨s'.start.config, []⟩) = s.after k (.next ⟨s.start.config, []⟩) := by
    subst same
    exact Search.after_of_traced rfl rfl rfl ended.final
  have ended : (s'.after k (.next ⟨s'.start.config, []⟩)).Answers answer := goes ▸ ended
  refine ⟨Search.answersWithin ended, fun log => ?_⟩
  rw [Engine.findMatch_result _ valid, Engine.verdict_eq _ valid]
  exact Search.run_admits ended

namespace Program.Answers

variable [Spelled E] {p : Program E} {input : Array E} {range : Span} {mode : MatchMode}
  {answer answer' : Option Match}

/-- There is only one answer. With room enough and no limit on cycles, a machine halts by itself. -/
theorem unique (answers : p.Answers input range mode answer)
    (answers' : p.Answers input range mode answer') : answer = answer' := by
  obtain ⟨cycles, comes⟩ := answers
  obtain ⟨cycles', comes'⟩ := answers'
  obtain ⟨within, -⟩ := comes { maxSavePoints := cycles }
  obtain ⟨within', -⟩ := comes' { maxSavePoints := cycles }
  obtain ⟨m, ran, halted, clear | ⟨-, ⟨limit, limited, -, -⟩ | ⟨lt, -⟩⟩⟩ := within.halts
  · have same := (within.answers _ m ran halted clear).symm.trans (within'.answers _ m ran halted clear)
    exact Except.ok.inj same
  · cases limited
  · exact absurd lt (Nat.lt_irrefl cycles)

theorem accepts_iff (answers : p.Answers input range mode answer) :
    p.Accepts input range mode ↔ answer.isSome := by
  rw [Option.isSome_iff_exists]
  constructor
  · rintro ⟨found, answers'⟩
    exact ⟨found, answers.unique answers'⟩
  · rintro ⟨found, rfl⟩
    exact ⟨found, answers⟩

/-- Where the machine halts by itself while its cycles can be counted, nothing but the answer is admitted. -/
theorem found (answers : p.Answers input range mode answer) (settings : Settings) {n : Nat} {m : Machine}
    (le : n ≤ Search.countableCycles)
    (ran : Search.runFor ⟨p, input, range, { settings with mode }⟩ n
      (Search.start ⟨p, input, range, { settings with mode }⟩) = .next m)
    (halted : m.status ≠ .inProgress) (clear : m.exceeded = none) :
    m.answer range.start = .ok answer ∧
      ∀ log, (Engine.findMatch ⟨p, settings⟩ input range mode).result log = .ok (.ok answer) := by
  obtain ⟨cycles, comes⟩ := answers
  obtain ⟨within, admits⟩ := comes settings
  refine ⟨within.answers n m ran halted clear, fun log => ?_⟩
  have admits := admits log
  have unlimited (e : MatchError) : ¬Search.EndsBy ⟨p, input, range, { settings with mode }⟩ e := by
    rintro ⟨k, stopped, ran', failed, exceeded⟩
    obtain rfl := Search.halted_unique ran halted ran' (by simp [failed])
    rw [clear] at exceeded
    cases exceeded
  rcases said : (Engine.findMatch ⟨p, settings⟩ input range mode).result log with f | e | found <;>
    rw [said] at admits
  · exact absurd (admits.1.live le ran) halted
  · cases e with
    | cycleLimitExceeded limit => exact absurd admits.1 (unlimited _)
    | backtrackLimitExceeded most => exact absurd admits.1 (unlimited _)
  · exact congrArg (fun found => Except.ok (Except.ok found)) admits

theorem accepted (answers : p.Answers input range mode answer) (settings : Settings) {n : Nat}
    {m : Machine} (le : n ≤ Search.countableCycles)
    (ran : Search.runFor ⟨p, input, range, { settings with mode }⟩ n
      (Search.start ⟨p, input, range, { settings with mode }⟩) = .next m)
    (accepted : m.status = .accepted) (clear : m.exceeded = none) :
    answer = some ⟨⟨range.start, m.position⟩, m.captures⟩ ∧
      ∀ log, (Engine.findMatch ⟨p, settings⟩ input range mode).result log = .ok (.ok answer) := by
  obtain ⟨same, found⟩ := answers.found settings le ran (by simp [accepted]) clear
  simp only [Machine.answer, clear, accepted, if_true] at same
  exact ⟨(Except.ok.inj same).symm, found⟩

end Program.Answers

theorem Pattern.Compiled.program_answers [Spelled E] {q : Pattern E} {p : Program E} {hi : Nat}
    (placed : q.Compiled p hi) (bounded : q.Consumers ConsumeFunction.Bounded) {input : Array E}
    {range : Span} (valid : range.start ≤ range.stop ∧ range.stop ≤ input.size) (mode : MatchMode) :
    p.Answers input range mode (q.firstMatch input range mode) := by
  let s : Search E := ⟨p, input, range, { tracing := true, mode }⟩
  obtain ⟨k, ended⟩ := Pattern.Compiled.answers (s := s) placed bounded valid.1 valid.2
  exact Program.answers_of_thread valid rfl ended

/-- The program of a pattern answers with the first outcome that the mode accepts. -/
theorem compiled_finds_firstMatch [Spelled E] {q : Pattern E} {limit : Nat} {p : Program E}
    (compiled : q.compile limit = .ok p) (bounded : q.Consumers ConsumeFunction.Bounded)
    (input : Array E) (range : Span) (valid : range.start ≤ range.stop ∧ range.stop ≤ input.size)
    (mode : MatchMode) : p.Answers input range mode (q.firstMatch input range mode) := by
  obtain ⟨hi, placed⟩ := Pattern.compile_placed compiled
  exact placed.program_answers bounded valid mode

/-- A group around a loop whose body may be empty, and what the group has matched once more. -/
theorem compiled_finds_firstMatch_again :
    let q : Pattern Nat := .concat
      [.capture 0 none (.repetition .zeroOrMore .greedy (.alternation [.element 7, .empty])),
        .backreference 0]
    ∃ p, q.compile 100 = .ok p ∧
      p.Answers #[7, 7, 7, 7, 7] ⟨0, 5⟩ .anywhere (some ⟨⟨0, 4⟩, [some ⟨0, 2⟩]⟩) ∧
      ∀ log, (Engine.findMatch ⟨p, {}⟩ #[7, 7, 7, 7, 7] ⟨0, 5⟩ .anywhere).result log =
        .ok (.ok (some ⟨⟨0, 4⟩, [some ⟨0, 2⟩]⟩)) := by
  intro q
  have bounded : q.Consumers ConsumeFunction.Bounded := ⟨⟨trivial, trivial, trivial⟩, trivial, trivial⟩
  have accepted : (q.compile 100).toOption.isSome = true := by decide +kernel
  have found : q.firstMatch #[7, 7, 7, 7, 7] ⟨0, 5⟩ .anywhere = some ⟨⟨0, 4⟩, [some ⟨0, 2⟩]⟩ := by
    decide +kernel
  have halts : ∀ p ∈ (q.compile 100).toOption,
      let s : Search Nat := ⟨p, #[7, 7, 7, 7, 7], ⟨0, 5⟩, {}⟩
      (s.runFor 100 s.start).leadsTo fun m => m.status ≠ .inProgress ∧ m.exceeded = none := by
    decide +kernel
  obtain ⟨p, compiled⟩ := exists_ok accepted
  have answers := compiled_finds_firstMatch compiled bounded #[7, 7, 7, 7, 7] ⟨0, 5⟩ (by decide) .anywhere
  rw [found] at answers
  obtain ⟨m, ran, halted, clear⟩ := Step.exists_of_leadsTo (halts p (by rw [compiled]; rfl))
  exact ⟨p, compiled, answers, (answers.found {} (by decide) ran halted clear).2⟩

end PatternMachine

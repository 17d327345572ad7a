import PatternMachine.Engine
import PatternMachine.Proofs.Machine.Cycle
import PatternMachine.Proofs.Machine.Records
import PatternMachine.Proofs.Machine.Run

/-! An engine says what its search comes to. The records written before and after do not matter. -/
namespace PatternMachine

/-- One computation after the other. -/
theorem Logged.bind_run {α β : Type} (x : Logged α) (f : α → Logged β) (log : Log) :
    (x >>= f).run.run log =
      match x.run.run log with
      | (.ok a, log) => (f a).run.run log
      | (.error e, log) => (.error e, log) := by
  have unfolded : (x >>= f).run.run log =
      match x.run.run log with
      | (r, log) => (ExceptT.bindCont f r : StateM Log _).run log := rfl
  rw [unfolded]
  rcases x.run.run log with ⟨_ | a, log'⟩ <;> rfl

/-- What a computation comes to, whatever it records. -/
def Logged.result {α : Type} (x : Logged α) (log : Log) : Except Fault α := (x.run.run log).1

theorem Logged.result_map {α β : Type} (x : Logged α) (f : α → β) (log : Log) :
    (x >>= fun a => pure (f a)).result log = (x.result log).map f := by
  rw [result, bind_run, result]
  rcases x.run.run log with ⟨_ | a, log'⟩ <;> rfl

/-- What a halted machine has found from where it started. -/
def Machine.answer (m : Machine) (start : Nat) : Except MatchError (Option Match) :=
  match m.exceeded with
  | some error => .error error
  | none => .ok (if m.status = .accepted then some ⟨⟨start, m.position⟩, m.captures⟩ else none)

/-- What a run comes to that started there. -/
def Step.answer (start : Nat) : Step → Except Fault (Except MatchError (Option Match))
  | .fault f _ => .error f
  | .next m => .ok (m.answer start)

theorem Step.answer_eq {x y : Step} (same : x.ending = y.ending) (start : Nat) :
    x.answer start = y.answer start := by
  cases x <;> cases y
  next m m' =>
    obtain ⟨config, status, exceeded⟩ : m.config = m'.config ∧ m.status = m'.status ∧
      m.exceeded = m'.exceeded := by simpa [ending] using same
    have position : m.position = m'.position := congrArg (·.position) config
    have captures : m.captures = m'.captures :=
      congrArg (fun c => c.registers.captures.toList.map (·.value)) config
    simp only [answer, Machine.answer, status, exceeded, position, captures]
  · cases same
  · cases same
  · exact congrArg Except.error (Except.error.inj same)

theorem Step.answer_found {x : Step} {start : Nat} {found : Match}
    (h : x.answer start = .ok (.ok (some found))) :
    ∃ m, x = .next m ∧ m.status = .accepted ∧ found = ⟨⟨start, m.position⟩, m.captures⟩ := by
  cases x with
  | fault f m => cases h
  | next m =>
    have h : m.answer start = .ok (some found) := Except.ok.inj h
    unfold Machine.answer at h
    split at h
    · cases h
    · have h := Except.ok.inj h
      split at h
      next accepted => cases h; exact ⟨m, rfl, accepted, rfl⟩
      · cases h

namespace Engine

variable {E : Type}

/-- The records with one more if tracing is on. -/
def noting (e : Engine E) (log : Log) (text : String) : Log :=
  if e.settings.tracing then log.push ⟨.trace, text⟩ else log

theorem trace_run (e : Engine E) (text : Unit → String) (log : Log) :
    (e.trace text).run.run log = (.ok (), e.noting log (text ())) := by
  unfold trace noting
  split <;> rfl

variable [DecidableEq E]

theorem execute_run (s : Search E) (log : Log) :
    (execute s).run.run log =
      match s.run { s.start with log } with
      | .next m => (.ok m, m.log)
      | .fault f m => (.error f, m.log) := by
  have ends (step : Step) :
      (match step with
        | .next m => (do set m.log; return m : Logged Machine)
        | .fault f m => (do set m.log; throw f)).run.run log =
      match step with
      | .next m => (.ok m, m.log)
      | .fault f m => (.error f, m.log) := by
    cases step <;> rfl
  exact ends _

/-- What a trace says before a search. -/
def opening [Spelled E] (input : Array E) (range : Span) (mode : MatchMode) : String :=
  "consume: " ++ spell (input.extract range.start range.stop).toList ++ " (" ++ mode.name ++ ")"

/-- What a trace says after a search. -/
def closing (m : Machine) : String :=
  "result: " ++ m.status.name ++ " at position " ++ toString m.position ++ " after " ++
    toString m.cycles ++ " cycles"

/-- What becomes of a search in an engine, and what is written down. -/
theorem findMatch_eq [Spelled E] (e : Engine E) {input : Array E} {range : Span} {mode : MatchMode}
    {s : Search E} (prepared : e.search input range mode = .ok s) (log : Log) :
    (e.findMatch input range mode).run.run log =
      match s.run { s.start with log := e.noting log (opening input range mode) } with
      | .next m => (.ok (m.answer range.start), e.noting m.log (closing m))
      | .fault f m => (.error f, m.log) := by
  obtain ⟨-, valid⟩ := Search.prepare_spec prepared
  have outside : ¬(e.settings.tracing ∧ ¬(range.start ≤ range.stop ∧ range.stop ≤ input.size)) :=
    fun h => h.2 valid
  have lifted (log : Log) : (liftM (.ok s : Except Fault (Search E)) : Logged _).run.run log =
      (.ok s, log) := rfl
  unfold findMatch
  rw [if_neg outside, prepared, Logged.bind_run, trace_run]
  simp only [Logged.bind_run, lifted, execute_run]
  rw [← opening]
  cases s.run { s.start with log := e.noting log (opening input range mode) } with
  | fault f m => rfl
  | next m =>
    simp only [trace_run, Machine.answer]
    rw [← closing]
    cases m.exceeded with
    | some error => rfl
    | none => by_cases accepted : m.status = .accepted <;> simp only [accepted] <;> rfl

theorem findMatch_run [Spelled E] (e : Engine E) {input : Array E} {range : Span}
    (valid : range.start ≤ range.stop ∧ range.stop ≤ input.size) (mode : MatchMode) (log : Log) :
    let s : Search E := ⟨e.program, input, range, { e.settings with mode }⟩
    ∃ log', ((e.findMatch input range mode).run.run log).1 =
      (s.run { s.start with log := log' }).answer range.start := by
  intro s
  refine ⟨e.noting log (opening input range mode), ?_⟩
  have prepared : e.search input range mode = .ok s := if_pos valid
  rw [e.findMatch_eq prepared log]
  cases s.run { s.start with log := e.noting log (opening input range mode) } <;> rfl

/-- What the engine finds out about a range. -/
def verdict [Spelled E] (e : Engine E) (input : Array E) (range : Span) (mode : MatchMode) :
    Except Fault (Except MatchError (Option Match)) :=
  (e.findMatch input range mode).result #[]

/-- An engine says the same whatever was recorded before. -/
theorem findMatch_verdict [Spelled E] (e : Engine E) {input : Array E} {range : Span}
    (valid : range.start ≤ range.stop ∧ range.stop ≤ input.size) (mode : MatchMode) (log : Log) :
    ∃ log', (e.findMatch input range mode).run.run log = (e.verdict input range mode, log') := by
  obtain ⟨before, left⟩ := e.findMatch_run valid mode log
  obtain ⟨before', right⟩ := e.findMatch_run valid mode #[]
  have same := Step.answer_eq (Search.run_ending
    ⟨e.program, input, range, { e.settings with mode }⟩ before before') range.start
  have same : ((e.findMatch input range mode).run.run log).1 = e.verdict input range mode :=
    left.trans (same.trans right.symm)
  exact ⟨((e.findMatch input range mode).run.run log).2, same ▸ rfl⟩

/-- What an engine finds out is what its search comes to. -/
theorem verdict_eq [Spelled E] (e : Engine E) {input : Array E} {range : Span}
    (valid : range.start ≤ range.stop ∧ range.stop ≤ input.size) (mode : MatchMode) :
    let s : Search E := ⟨e.program, input, range, { e.settings with mode }⟩
    e.verdict input range mode = (s.run s.start).answer range.start := by
  obtain ⟨log, left⟩ := e.findMatch_run valid mode #[]
  exact left.trans (Step.answer_eq (Search.run_ending _ log #[]) range.start)

theorem findMatch_result [Spelled E] (e : Engine E) {input : Array E} {range : Span}
    (valid : range.start ≤ range.stop ∧ range.stop ≤ input.size) (mode : MatchMode) (log : Log) :
    (e.findMatch input range mode).result log = e.verdict input range mode := by
  obtain ⟨log', said⟩ := e.findMatch_verdict valid mode log
  rw [Logged.result, said]

/-- Exceeding a limit counts as no match. -/
theorem consume_result [Spelled E] (e : Engine E) {input : Array E} {range : Span}
    (valid : range.start ≤ range.stop ∧ range.stop ≤ input.size) (mode : MatchMode) (log : Log) :
    (e.consume input range mode).result log =
      match e.verdict input range mode with
      | .error f => .error f
      | .ok (.error _) => .ok none
      | .ok (.ok found) => .ok (found.map (·.range.stop)) := by
  obtain ⟨log', said⟩ := e.findMatch_verdict valid mode log
  rw [consume, tryConsume, Logged.result, Logged.bind_run, Logged.bind_run, said]
  cases e.verdict input range mode with
  | error f => rfl
  | ok answer => cases answer <;> rfl

end Engine

end PatternMachine

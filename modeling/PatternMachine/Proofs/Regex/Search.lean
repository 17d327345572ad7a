import Mathlib.Data.Nat.Find
import PatternMachine.Proofs.Outcome.Search
import PatternMachine.Regex.Basic

/-! A search goes from left to right and ends with the first run that finds something or is stopped by a
limit. So whatever is found is the first outcome at the leftmost position that has one. -/
namespace PatternMachine

/-! ### Outcomes in a text -/

/-- What is left of a text from a position on. -/
def restFrom (text : String) (start : Nat) : Span := ⟨start, text.toList.toArray.size⟩

theorem restFrom_stop (text : String) (start : Nat) : (restFrom text start).stop = text.length := by
  rw [restFrom, List.size_toArray, String.length_toList]

theorem restFrom_valid {text : String} {start : Nat} (inside : start ≤ text.length) :
    (restFrom text start).start ≤ (restFrom text start).stop ∧
      (restFrom text start).stop ≤ text.toList.toArray.size := by
  refine ⟨?_, Nat.le_refl _⟩
  rwa [restFrom_stop]

namespace Pattern

/-- The ways to match at a position of a text, as long as no group is set. Assertions see the whole text. -/
def waysAt (q : Pattern Char) (text : String) (start : Nat) : List Moment :=
  q.outcomes text.toList.toArray (restFrom text start) ⟨start, .replicate q.captureCount none⟩

/-- The match that the first way at a position is. -/
def matchAt (q : Pattern Char) (text : String) (start : Nat) : Option Match :=
  (q.waysAt text start).head?.map fun m => ⟨⟨start, m.position⟩, m.captures⟩

theorem firstMatch_anywhere (q : Pattern Char) (text : String) (start : Nat) :
    q.firstMatch text.toList.toArray (restFrom text start) .anywhere = q.matchAt text start := by
  unfold firstMatch firstOutcome
  change Option.map _ (List.find? _ (q.waysAt text start)) = Option.map _ (q.waysAt text start).head?
  cases q.waysAt text start <;> rfl

end Pattern

namespace Regex

/-! ### Runs at a position -/

/-- What the engine finds out when it starts at a position of a text. -/
def verdict (r : Regex) (text : String) (start : Nat) (mode : MatchMode) :
    Except Fault (Except MatchError (Option Match)) :=
  r.engine.verdict text.toList.toArray (restFrom text start) mode

/-- The search that the engine starts at a position of a text. -/
def searchAt (r : Regex) (text : String) (start : Nat) (mode : MatchMode) : Search Char :=
  ⟨r.engine.program, text.toList.toArray, restFrom text start, { r.engine.settings with mode }⟩

/-- A limit stops the run at a position, or the run outlasts its counter of cycles. -/
def Exceeds (r : Regex) (text : String) (start : Nat) (mode : MatchMode) : Prop :=
  (∃ error, r.verdict text start mode = .ok (.error error) ∧ (r.searchAt text start mode).EndsBy error) ∨
    r.verdict text start mode = .error .additionOverflow ∧ (r.searchAt text start mode).Outlasts

theorem verdict_cases {r : Regex} {q : Pattern Char} {limit : Nat}
    (compiled : q.compile limit = .ok r.engine.program)
    (bounded : q.Consumers ConsumeFunction.Bounded) {text : String} {start : Nat}
    (inside : start ≤ text.length) (mode : MatchMode) :
    r.Exceeds text start mode ∨ r.verdict text start mode =
      .ok (.ok (q.firstMatch text.toList.toArray (restFrom text start) mode)) := by
  obtain ⟨hi, placed⟩ := Pattern.compile_placed compiled
  obtain ⟨cycles, comes⟩ := placed.program_answers bounded (restFrom_valid inside) mode
  have admits := (comes r.engine.settings).2 #[]
  change (r.searchAt text start mode).Admits cycles _ (r.verdict text start mode) at admits
  unfold Exceeds
  rcases said : r.verdict text start mode with f | e | found <;> rw [said] at admits
  · obtain ⟨outlasts, rfl, -⟩ := admits
    exact .inl (.inr ⟨rfl, outlasts⟩)
  · cases e with
    | cycleLimitExceeded limit => exact .inl (.inl ⟨_, rfl, admits.1⟩)
    | backtrackLimitExceeded most => exact .inl (.inl ⟨_, rfl, admits.1⟩)
  · cases admits
    exact .inr rfl

/-! ### Searching from left to right -/

/-- What a run says for the whole search, unless the search goes on. -/
def decision? : Except Fault (Except MatchError (Option Match)) → Option (Except Fault (Option Match))
  | .error f => some (.error f)
  | .ok (.error _) => some (.ok none)
  | .ok (.ok (some found)) => some (.ok (some found))
  | .ok (.ok none) => none

theorem firstMatch_step (r : Regex) (text : String) {start : Nat} (inside : start ≤ text.length)
    (rest : List Nat) (log : Log) :
    ∃ log', (r.firstMatch text.toList.toArray (start :: rest)).result log =
      (decision? (r.verdict text start .anywhere)).getD
        ((r.firstMatch text.toList.toArray rest).result log') := by
  obtain ⟨log', said⟩ := r.engine.findMatch_verdict (restFrom_valid inside) .anywhere log
  change (r.engine.findMatch text.toList.toArray ⟨start, text.toList.toArray.size⟩ .anywhere).run.run
    log = (r.verdict text start .anywhere, log') at said
  refine ⟨log', ?_⟩
  rw [firstMatch, Logged.result, Logged.bind_run, said]
  rcases r.verdict text start .anywhere with _ | _ | _ | _ <;> rfl

/-- Positions where nothing is found are passed over. -/
theorem firstMatch_skip (r : Regex) (text : String) (before rest : List Nat)
    (nothing : ∀ start ∈ before, start ≤ text.length ∧ r.verdict text start .anywhere = .ok (.ok none))
    (log : Log) :
    ∃ log', (r.firstMatch text.toList.toArray (before ++ rest)).result log =
      (r.firstMatch text.toList.toArray rest).result log' := by
  induction before generalizing log with
  | nil => exact ⟨log, rfl⟩
  | cons start before ih =>
    obtain ⟨inside, none⟩ := nothing start List.mem_cons_self
    obtain ⟨log', step⟩ := r.firstMatch_step text inside (before ++ rest) log
    rw [none] at step
    obtain ⟨log'', skip⟩ := ih (fun start member => nothing start (List.mem_cons_of_mem _ member)) log'
    exact ⟨log'', step.trans skip⟩

/-- What a search says that goes through all positions of a text. -/
def searched (r : Regex) (text : String) (log : Log) : Except Fault (Option Match) :=
  (r.firstMatch text.toList.toArray (List.range (text.toList.toArray.size + 1))).result log

theorem range_cut {start n : Nat} (le : start ≤ n) :
    ∃ rest, List.range (n + 1) = List.range start ++ start :: rest := by
  obtain ⟨k, rfl⟩ := Nat.exists_eq_add_of_le le
  rw [Nat.add_assoc, List.range_add, List.range_succ_eq_map, List.map_cons, Nat.add_zero]
  exact ⟨_, rfl⟩

/-- The first run that decides the search speaks for it. -/
theorem searched_of_decision {r : Regex} {text : String} {start : Nat} (inside : start ≤ text.length)
    (before : ∀ earlier < start, r.verdict text earlier .anywhere = .ok (.ok none))
    {said : Except Fault (Option Match)}
    (decided : decision? (r.verdict text start .anywhere) = some said) (log : Log) :
    r.searched text log = said := by
  have size : text.toList.toArray.size = text.length := restFrom_stop text 0
  obtain ⟨rest, positions⟩ := range_cut inside
  obtain ⟨log', skip⟩ := r.firstMatch_skip text (List.range start) (start :: rest)
    (fun earlier member => by
      have lt := List.mem_range.mp member
      exact ⟨Nat.le_trans (Nat.le_of_lt lt) inside, before earlier lt⟩) log
  obtain ⟨log'', step⟩ := r.firstMatch_step text inside rest log'
  rw [searched, size, positions, skip, step, decided, Option.getD_some]

section

variable {r : Regex} {q : Pattern Char} {limit : Nat} {text : String} {start : Nat}
  (compiled : q.compile limit = .ok r.engine.program) (bounded : q.Consumers ConsumeFunction.Bounded)

include compiled bounded

/-- A run that no limit stops finds the first way to match. -/
theorem verdict_eq (inside : start ≤ text.length) (completes : ¬r.Exceeds text start .anywhere) :
    r.verdict text start .anywhere = .ok (.ok (q.matchAt text start)) := by
  rcases verdict_cases compiled bounded inside .anywhere with exceeds | said
  · exact absurd exceeds completes
  · rw [said, q.firstMatch_anywhere]

end

end Regex

end PatternMachine

import PatternMachine.Proofs.Machine.Frame

/-! Where a match may end matters to accepting only. So a run that wants the whole range goes along with the
run that does not, until that one accepts; if it has not got to the end of the range there, it backtracks
and goes on alone. -/
namespace PatternMachine

/-- A run has come to a match. -/
def Step.Accepts : Step → Prop
  | next m => m.status = .accepted
  | fault _ _ => False

namespace Search

variable {E : Type} {s : Search E} {c : Configuration} {m m' : Machine}

/-- The search with the same limits in another mode. -/
def inMode (s : Search E) (mode : MatchMode) : Search E :=
  { s with settings := { s.settings with mode } }

/-! ### The two ways to accept -/

theorem acceptance_anywhere (s : Search E) (c : Configuration) :
    (s.inMode .anywhere).acceptance c = .accept := if_neg fun whole => nomatch whole.1

theorem acceptance_whole (s : Search E) (c : Configuration) :
    (s.inMode .whole).acceptance c = if c.position = s.range.stop then .accept else .backtrack := by
  by_cases atEnd : c.position = s.range.stop
  · rw [if_pos atEnd]
    exact if_neg fun early => early.2 atEnd
  · rw [if_neg atEnd]
    exact if_pos ⟨rfl, atEnd⟩

/-- Obeying does not depend on the mode. -/
theorem obey_inMode (mode : MatchMode) (m : Machine) (e : Effect) :
    (s.inMode mode).obey m e = s.obey m e := by
  cases e <;> rfl

section

variable [DecidableEq E]

/-- Only the operations that accept ask for the mode, and they ask in the same way. -/
theorem effect_modes (s : Search E) (c : Configuration) (op : Operation) :
    (s.inMode .whole).effect c op = (s.inMode .anywhere).effect c op ∨
      ∀ mode, (s.inMode mode).effect c op = (s.inMode mode).acceptance c := by
  cases op with
  | accept => exact .inr fun _ => rfl
  | ret =>
    cases returns : c.callStack.pop? with
    | none => exact .inr fun _ => by simp only [effect, returns]
    | some top => exact .inl (by simp only [effect, returns])
  | _ => exact .inl rfl

/-- What accepts in some mode accepts by that mode. -/
theorem acceptance_of_effect {op : Operation} (accepts : s.effect c op = .accept) :
    s.acceptance c = .accept := by
  cases op <;> simp only [effect, consumption, assignment] at accepts
  case accept => exact accepts
  case ret =>
    split at accepts
    · exact accepts
    · cases accepts
  all_goals
    repeat' split at accepts
    all_goals cases accepts

/-! ### One cycle -/

/-- In a cycle the modes come to the same, or a match ends too early to be a whole one. -/
theorem cycle_modes (s : Search E) (m : Machine) :
    (s.inMode .whole).cycle m = (s.inMode .anywhere).cycle m ∨
      ∃ early : Machine, early.position ≠ s.range.stop ∧ early.cycles = m.cycles + 1 ∧
        (s.inMode .anywhere).cycle m = .next { early with status := .accepted } ∧
        (s.inMode .whole).cycle m = early.backtrack := by
  have check (mode : MatchMode) : (s.inMode mode).check m = s.check m := rfl
  have used (mode : MatchMode) : (s.inMode mode).cyclesUsedUp m.cycles = s.cyclesUsedUp m.cycles := rfl
  rw [cycle_eq, cycle_eq, check, check, used, used]
  cases s.check m with
  | some f => exact .inl rfl
  | none =>
    cases s.cyclesUsedUp m.cycles with
    | some e => exact .inl rfl
    | none =>
      rcases s.fetch_cases m with ⟨f, log, cycles, fetched⟩ | ⟨log, op, fetched⟩
      · have turned (mode : MatchMode) : (s.inMode mode).turn m = .fault f { m with log, cycles } :=
          turn_of_error fetched
        exact .inl ((turned .whole).trans (turned .anywhere).symm)
      have turned (mode : MatchMode) : (s.inMode mode).turn m =
          s.obey { m with log, cycles := m.cycles + 1 } ((s.inMode mode).effect m.config op) :=
        (turn_of_ok (s := s.inMode mode) fetched).trans (obey_inMode mode _ _)
      simp only [turned]
      rcases s.effect_modes m.config op with same | accepting
      · exact .inl (congrArg (s.obey _) same)
      · have anywhere := (accepting .anywhere).trans (s.acceptance_anywhere m.config)
        have whole := (accepting .whole).trans (s.acceptance_whole m.config)
        by_cases atEnd : m.config.position = s.range.stop
        · rw [if_pos atEnd] at whole
          exact .inl (congrArg (s.obey _) (whole.trans anywhere.symm))
        · rw [if_neg atEnd] at whole
          exact .inr ⟨{ m with log, cycles := m.cycles + 1 }, atEnd, rfl, congrArg (s.obey _) anywhere,
            congrArg (s.obey _) whole⟩

/-- Whole matches end with the range. -/
theorem cycle_whole_accepts (cycled : (s.inMode .whole).cycle m = .next m')
    (accepted : m'.status = .accepted) : m'.position = s.range.stop := by
  obtain ⟨live, ⟨e, rfl⟩ | turned⟩ := cycle_halt_or_turn cycled
  · obtain ⟨log, eq⟩ := (s.inMode .whole).halt_eq m e
    rw [eq] at accepted
    cases accepted
  · obtain ⟨log, op, obeyed⟩ := turn_next turned
    obtain ⟨-, -, accepts⟩ := (s.inMode .whole).obey_spec { m with log, cycles := m.cycles + 1 }
      ((s.inMode .whole).effect m.config op)
    rw [obeyed] at accepts
    rcases accepts accepted with before | accepts
    · cases live.symm.trans before
    · have here : m.position = s.range.stop := by
        have accepts := acceptance_of_effect accepts
        rw [acceptance_whole] at accepts
        split at accepts
        next here => exact here
        · cases accepts
      rw [accepts] at obeyed
      cases obeyed
      exact here

/-! ### Whole runs -/

variable {n : Nat}

theorem runFor_accepts_succ (accepts : (s.runFor n m).Accepts) : (s.runFor (n + 1) m).Accepts := by
  rw [runFor_succ]
  cases ran : s.runFor n m with
  | fault f m' => rw [ran] at accepts; exact accepts.elim
  | next m' =>
    rw [ran] at accepts
    have accepted : m'.status = .accepted := accepts
    rw [Step.thenBy_halted (by simp [accepted])]
    exact accepts

/-- As long as nothing is accepted, the mode does not matter. -/
theorem runFor_modes (s : Search E) (m : Machine)
    (before : ¬((s.inMode .anywhere).runFor n m).Accepts) :
    (s.inMode .whole).runFor n m = (s.inMode .anywhere).runFor n m := by
  induction n with
  | zero => rfl
  | succ n ih =>
    rw [runFor_succ, runFor_succ, ih (mt runFor_accepts_succ before)]
    rw [runFor_succ] at before
    cases ran : (s.inMode .anywhere).runFor n m with
    | fault f m' => rfl
    | next m' =>
      rw [ran] at before
      by_cases live : m'.status = .inProgress
      · rw [Step.thenBy_live live] at before
        rw [Step.thenBy_live live, Step.thenBy_live live]
        rcases s.cycle_modes m' with same | ⟨early, -, -, accepted, -⟩
        · exact same
        · rw [accepted] at before
          exact absurd rfl before
      · rw [Step.thenBy_halted live, Step.thenBy_halted live]

/-- A match that ends with the range is a whole one. -/
theorem runFor_modes_atEnd (ran : (s.inMode .anywhere).runFor n m = .next m')
    (atEnd : m'.position = s.range.stop) : (s.inMode .whole).runFor n m = .next m' := by
  induction n with
  | zero => exact ran
  | succ n ih =>
    rw [runFor_succ] at ran ⊢
    cases before : (s.inMode .anywhere).runFor n m with
    | fault f m'' => rw [before] at ran; cases ran
    | next m'' =>
      rw [before] at ran
      by_cases live : m''.status = .inProgress
      · have together := s.runFor_modes (n := n) m (by rw [before]; simp [Step.Accepts, live])
        rw [Step.thenBy_live live] at ran
        rw [together, before, Step.thenBy_live live]
        rcases s.cycle_modes m'' with same | ⟨early, away, -, accepted, -⟩
        · exact same.trans ran
        · rw [accepted] at ran
          cases ran
          exact absurd atEnd away
      · rw [Step.thenBy_halted live] at ran
        cases ran
        rw [ih before, Step.thenBy_halted live]

/-- Whole matches end with the range, and the other run has found a match by then. -/
theorem runFor_whole_accepts (live : m.status = .inProgress)
    (ran : (s.inMode .whole).runFor n m = .next m') (accepted : m'.status = .accepted) :
    m'.position = s.range.stop ∧ ∃ first, (s.inMode .anywhere).runFor n m = .next first ∧
      first.status = .accepted ∧ first.cycles ≤ m'.cycles := by
  induction n with
  | zero => cases ran; cases live.symm.trans accepted
  | succ n ih =>
    have accepts : ((s.inMode .anywhere).runFor (n + 1) m).Accepts :=
      Classical.byContradiction fun before => by
        rw [← s.runFor_modes m before, ran] at before
        exact before accepted
    rw [runFor_succ] at ran
    cases before : (s.inMode .whole).runFor n m with
    | fault f m'' => rw [before] at ran; cases ran
    | next m'' =>
      rw [before] at ran
      by_cases live' : m''.status = .inProgress
      · rw [Step.thenBy_live live'] at ran
        refine ⟨cycle_whole_accepts ran accepted, ?_⟩
        cases found : (s.inMode .anywhere).runFor (n + 1) m with
        | fault f first => rw [found] at accepts; exact accepts.elim
        | next first =>
          rw [found] at accepts
          have counted := (runFor_spec before).2.1 live'
          have := ((cycle_spec ran).2 (by simp [accepted])).1
          have := (runFor_spec found).1
          exact ⟨first, rfl, accepts, by omega⟩
      · rw [Step.thenBy_halted live'] at ran
        cases ran
        obtain ⟨atEnd, first, found, accepted', le⟩ := ih before
        refine ⟨atEnd, first, ?_, accepted', le⟩
        rw [runFor_succ, found, Step.thenBy_halted (by simp [accepted'])]

end

/-- Runs in the two modes are one run until that in the mode `anywhere` accepts. -/
structure ModesAgree [DecidableEq E] (s : Search E) : Prop where
  same : ∀ n, ¬((s.inMode .anywhere).runFor n s.start).Accepts →
    (s.inMode .whole).runFor n s.start = (s.inMode .anywhere).runFor n s.start
  /-- A run that fails, is aborted or exceeds a limit does so in both modes. -/
  failed : ∀ n m, (s.inMode .anywhere).runFor n s.start = .next m → m.status = .failed →
    (s.inMode .whole).runFor n s.start = .next m
  fault : ∀ n f m, (s.inMode .anywhere).runFor n s.start = .fault f m →
    (s.inMode .whole).runFor n s.start = .fault f m
  endless : (∀ n, ∃ m, (s.inMode .anywhere).runFor n s.start = .next m ∧ m.status = .inProgress) →
    ∀ n, (s.inMode .whole).runFor n s.start = (s.inMode .anywhere).runFor n s.start
  /-- A match that ends with the range is found in both modes. -/
  atEnd : ∀ n m, (s.inMode .anywhere).runFor n s.start = .next m → m.status = .accepted →
    m.position = s.range.stop → (s.inMode .whole).runFor n s.start = .next m
  whole : ∀ n m, (s.inMode .whole).runFor n s.start = .next m → m.status = .accepted →
    m.position = s.range.stop ∧ ∃ first, (s.inMode .anywhere).runFor n s.start = .next first ∧
      first.status = .accepted ∧ first.cycles ≤ m.cycles

theorem modesAgree [DecidableEq E] (s : Search E) : s.ModesAgree := by
  refine ⟨fun n => s.runFor_modes s.start, fun n m ran failed => ?_, fun n f m ran => ?_,
    fun endless n => ?_, fun n m ran _ => runFor_modes_atEnd ran,
    fun n m => runFor_whole_accepts rfl⟩
  · rw [s.runFor_modes s.start (by simp [ran, Step.Accepts, failed]), ran]
  · rw [s.runFor_modes s.start (by simp [ran, Step.Accepts]), ran]
  · obtain ⟨m, ran, live⟩ := endless n
    exact s.runFor_modes s.start (by simp [ran, Step.Accepts, live])

end Search

end PatternMachine

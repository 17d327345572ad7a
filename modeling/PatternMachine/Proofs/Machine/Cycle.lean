import PatternMachine.Proofs.Machine.Trail

/-! A cycle asserts what must hold, looks for the limit on cycles, fetches an operation and obeys its
effect. Searches with other settings differ in the last step only, so that is where runs are compared. -/
namespace PatternMachine

namespace Step

/-- Where a step has led, even if it ends in a fault. -/
def machine : Step → Machine
  | next m => m
  | fault _ m => m

/-- A further step, unless the machine has halted. -/
def thenBy (x : Step) (step : Machine → Step) : Step :=
  match x with
  | next m => if m.status = .inProgress then step m else next m
  | fault f m => fault f m

variable {step : Machine → Step} {m : Machine}

theorem thenBy_live (live : m.status = .inProgress) : (next m).thenBy step = step m := if_pos live

theorem thenBy_halted (halted : m.status ≠ .inProgress) : (next m).thenBy step = next m :=
  if_neg halted

/-- The step leads to a machine with a property that can be decided. -/
def leadsTo (x : Step) (p : Machine → Bool) : Bool :=
  match x with
  | next m => p m
  | fault _ _ => false

theorem exists_of_leadsTo {x : Step} {p : Machine → Prop} [DecidablePred p]
    (h : x.leadsTo fun m => p m) : ∃ m, x = next m ∧ p m := by
  cases x with
  | next m => exact ⟨m, rfl, of_decide_eq_true h⟩
  | fault f m => cases h

end Step

namespace Search

variable {E : Type} {s : Search E} {m m' : Machine}

theorem prepare_spec {program : Program E} {input : Array E} {range : Span} {settings : Settings}
    (h : Search.prepare program input range settings = .ok s) :
    s = ⟨program, input, range, settings⟩ ∧ range.start ≤ range.stop ∧
      range.stop ≤ input.size := by
  unfold Search.prepare at h
  split at h
  next valid => cases h; exact ⟨rfl, valid⟩
  · cases h

theorem live_of_check (checked : s.check m = none) : m.status = .inProgress := by
  unfold check at checked
  split at checked
  · cases checked
  next live => exact Decidable.not_not.mp live

/-! ### The parts of a cycle -/

/-- The operation that comes next, with the machine that has announced and counted it. -/
def fetch (s : Search E) (m : Machine) : Except (Fault × Machine) (Machine × Operation) :=
  match s.program.code[m.pc.index]? with
  | none => .error (.pastEnd m.pc, m)
  | some i =>
    match s.announce m i with
    | .error f => .error (f, m)
    | .ok announced =>
      match i.decode with
      | .error f => .error (f, { announced with cycles := announced.cycles + 1 })
      | .ok op => .ok ({ announced with cycles := announced.cycles + 1 }, op)

/-- A cycle that neither an assertion nor a limit prevents. -/
def turn [DecidableEq E] (s : Search E) (m : Machine) : Step :=
  match s.fetch m with
  | .error (f, m) => .fault f m
  | .ok (m, op) => s.obey m (s.effect m.config op)

theorem cycle_eq [DecidableEq E] (s : Search E) (m : Machine) :
    s.cycle m =
      match s.check m with
      | some f => .fault f m
      | none =>
        match s.cyclesUsedUp m.cycles with
        | some e => .next (s.halt m e)
        | none => s.turn m := by
  unfold cycle cycleWith turn fetch
  cases s.check m with
  | some f => rfl
  | none =>
    cases s.cyclesUsedUp m.cycles with
    | some e => rfl
    | none =>
      cases s.program.code[m.pc.index]? with
      | none => rfl
      | some i =>
        rcases announced : s.announce m i with f | m'
        · simp only [announced]
        · rcases decoded : i.decode with f | op
          · simp only [announced, decoded]
          · simp only [announced, decoded, perform_eq_obey]

theorem announce_eq {i : Instruction} (announced : s.announce m i = .ok m') :
    ∃ log, m' = { m with log } := by
  unfold announce at announced
  split at announced
  · cases text : announcement i m.pc.index m.position m.savePoints.depth m.callStack.depth with
    | error f => rw [text] at announced; cases announced
    | ok text' => rw [text] at announced; cases announced; exact ⟨_, rfl⟩
  · cases announced
    exact ⟨m.log, rfl⟩

/-- A cycle ends before an instruction is executed, or comes to the instruction and leaves nothing but
records. -/
theorem cycleWith_cases (s : Search E) (m : Machine) :
    (∃ f, ∀ execute, s.cycleWith execute m = .fault f m) ∨
    (∃ e, s.cyclesUsedUp m.cycles = some e ∧ ∀ execute, s.cycleWith execute m = .next (s.halt m e)) ∨
    ∃ i log, s.cyclesUsedUp m.cycles = none ∧
      ∀ execute, s.cycleWith execute m = execute i { m with log } := by
  unfold cycleWith
  cases s.check m with
  | some f => exact .inl ⟨f, fun _ => rfl⟩
  | none =>
    cases s.cyclesUsedUp m.cycles with
    | some e => exact .inr (.inl ⟨e, rfl, fun _ => rfl⟩)
    | none =>
      cases s.program.code[m.pc.index]? with
      | none => exact .inl ⟨_, fun _ => rfl⟩
      | some i =>
        cases announced : s.announce m i with
        | error f => exact .inl ⟨f, fun _ => by simp only [announced]⟩
        | ok m' =>
          obtain ⟨log, rfl⟩ := announce_eq announced
          exact .inr (.inr ⟨i, log, rfl, fun _ => by simp only [announced]⟩)

/-- Fetching counts the cycle. -/
theorem fetch_eq {op : Operation} (fetched : s.fetch m = .ok (m', op)) :
    ∃ log, m' = { m with log, cycles := m.cycles + 1 } := by
  unfold fetch at fetched
  split at fetched
  · cases fetched
  split at fetched
  · cases fetched
  next announced =>
    obtain ⟨log, rfl⟩ := announce_eq announced
    split at fetched <;> cases fetched
    exact ⟨log, rfl⟩

theorem fetch_decode {op : Operation} (fetched : s.fetch m = .ok (m', op)) :
    ∃ i, s.program.code[m.pc.index]? = some i ∧ i.decode = .ok op := by
  unfold fetch at fetched
  split at fetched
  · cases fetched
  next i known =>
    split at fetched
    · cases fetched
    split at fetched
    · cases fetched
    next decoded => cases fetched; exact ⟨i, known, decoded⟩

/-- A fault while fetching leaves all but the records and the count as they are. -/
theorem fetch_error {f : Fault} (fetched : s.fetch m = .error (f, m')) :
    ∃ log cycles, m' = { m with log, cycles } := by
  unfold fetch at fetched
  split at fetched
  · cases fetched; exact ⟨m.log, m.cycles, rfl⟩
  split at fetched
  · cases fetched; exact ⟨m.log, m.cycles, rfl⟩
  next announced =>
    obtain ⟨log, rfl⟩ := announce_eq announced
    split at fetched <;> cases fetched
    exact ⟨log, m.cycles + 1, rfl⟩

theorem fetch_cases (s : Search E) (m : Machine) :
    (∃ f log cycles, s.fetch m = .error (f, { m with log, cycles })) ∨
      ∃ log op, s.fetch m = .ok ({ m with log, cycles := m.cycles + 1 }, op) := by
  rcases fetched : s.fetch m with ⟨f, m'⟩ | ⟨m', op⟩
  · obtain ⟨log, cycles, rfl⟩ := fetch_error fetched
    exact .inl ⟨f, log, cycles, rfl⟩
  · obtain ⟨log, rfl⟩ := fetch_eq fetched
    exact .inr ⟨log, op, rfl⟩

theorem trace_eq (s : Search E) (m : Machine) (text : String) :
    ∃ log, s.trace m text = { m with log } := by
  unfold trace
  split
  · exact ⟨_, rfl⟩
  · exact ⟨m.log, rfl⟩

theorem halt_eq (s : Search E) (m : Machine) (e : MatchError) :
    ∃ log, s.halt m e = { m with log, exceeded := some e, status := .failed } := by
  obtain ⟨log, eq⟩ := s.trace_eq m ("halted: " ++ e.message)
  exact ⟨log, by rw [halt, eq]⟩

variable [DecidableEq E]

theorem turn_of_error {f : Fault} (fetched : s.fetch m = .error (f, m')) : s.turn m = .fault f m' := by
  rw [turn, fetched]

theorem turn_of_ok {log : Log} {op : Operation}
    (fetched : s.fetch m = .ok ({ m with log, cycles := m.cycles + 1 }, op)) :
    s.turn m = s.obey { m with log, cycles := m.cycles + 1 } (s.effect m.config op) := by
  rw [turn, fetched]
  rfl

theorem turn_next (turned : s.turn m = .next m') :
    ∃ log op, s.obey { m with log, cycles := m.cycles + 1 } (s.effect m.config op) = .next m' := by
  rcases s.fetch_cases m with ⟨f, log, cycles, fetched⟩ | ⟨log, op, fetched⟩
  · rw [turn_of_error fetched] at turned
    cases turned
  · rw [turn_of_ok fetched] at turned
    exact ⟨log, op, turned⟩

/-- A cycle that does not end in a fault is the last one, or a turn. -/
theorem cycle_halt_or_turn (cycled : s.cycle m = .next m') :
    m.status = .inProgress ∧ ((∃ e, m' = s.halt m e) ∨ s.turn m = .next m') := by
  rw [cycle_eq] at cycled
  split at cycled
  · cases cycled
  next checked =>
    refine ⟨live_of_check checked, ?_⟩
    split at cycled
    next e _ => cases cycled; exact .inl ⟨e, rfl⟩
    · exact .inr cycled

/-- The last cycle executes nothing. If it does not end in a fault, it is a cycle that has found the limit
reached. -/
theorem lastCycle_next (ended : s.lastCycle m = .next m') :
    ∃ e, s.cyclesUsedUp m.cycles = some e ∧ m' = s.halt m e ∧ s.cycle m = .next m' := by
  rcases s.cycleWith_cases m with ⟨f, faults⟩ | ⟨e, used, halts⟩ | ⟨i, log, -, comes⟩
  · rw [lastCycle, faults] at ended
    cases ended
  · rw [lastCycle, halts] at ended
    cases ended
    exact ⟨e, used, rfl, halts _⟩
  · rw [lastCycle, comes] at ended
    cases ended

/-- Where another cycle would not end in a fault, the last one ends so only because it cannot be counted. -/
theorem lastCycle_of_cycle (cycled : s.cycle m = .next m') :
    s.lastCycle m = .next m' ∨
      s.cyclesUsedUp m.cycles = none ∧ ∃ announced, s.lastCycle m = .fault .additionOverflow announced := by
  rcases s.cycleWith_cases m with ⟨f, faults⟩ | ⟨e, -, halts⟩ | ⟨i, log, unused, comes⟩
  · rw [cycle, faults] at cycled
    cases cycled
  · rw [cycle, halts] at cycled
    exact .inl ((halts _).trans cycled)
  · exact .inr ⟨unused, _, comes _⟩

/-! ### Runs -/

theorem runFor_halted (n : Nat) (h : m.status ≠ .inProgress) : s.runFor n m = .next m := by
  cases n with
  | zero => rfl
  | succ n => exact if_neg h

theorem runFor_live (n : Nat) (live : m.status = .inProgress) :
    s.runFor (n + 1) m =
      match s.cycle m with
      | .next m => s.runFor n m
      | .fault f m => .fault f m := if_pos live

theorem runFor_one (live : m.status = .inProgress) : s.runFor 1 m = s.cycle m := by
  rw [runFor_live 0 live]
  cases s.cycle m <;> rfl

/-- A run goes on from where it has got to. -/
theorem runFor_append (n k : Nat) (m : Machine) :
    s.runFor (n + k) m =
      match s.runFor n m with
      | .next m' => s.runFor k m'
      | .fault f m' => .fault f m' := by
  induction n generalizing m with
  | zero => rw [Nat.zero_add]; rfl
  | succ n ih =>
    by_cases live : m.status = .inProgress
    · rw [Nat.succ_add, runFor_live _ live, runFor_live _ live]
      cases s.cycle m with
      | next m' => exact ih m'
      | fault f m' => rfl
    · rw [runFor_halted (n + 1 + k) live, runFor_halted (n + 1) live]
      exact (runFor_halted k live).symm

theorem runFor_add {n : Nat} (ran : s.runFor n m = .next m') (k : Nat) :
    s.runFor (n + k) m = s.runFor k m' := by
  rw [runFor_append, ran]

/-- One cycle more. -/
theorem runFor_succ (s : Search E) (n : Nat) (m : Machine) :
    s.runFor (n + 1) m = (s.runFor n m).thenBy s.cycle := by
  rw [runFor_append]
  cases s.runFor n m with
  | fault f m' => rfl
  | next m' =>
    by_cases live : m'.status = .inProgress
    · exact (runFor_one live).trans (Step.thenBy_live live).symm
    · exact (runFor_halted 1 live).trans (Step.thenBy_halted live).symm

/-- A machine stays as it is once it has halted. -/
theorem runFor_of_le {n k : Nat} (le : n ≤ k) (ran : s.runFor n m = .next m')
    (halted : m'.status ≠ .inProgress) : s.runFor k m = .next m' := by
  obtain ⟨j, eq⟩ := Nat.exists_eq_add_of_le le
  rw [eq, runFor_add ran, runFor_halted j halted]

theorem halted_unique {n k : Nat} {m₁ m₂ : Machine} (ran₁ : s.runFor n m = .next m₁)
    (halted₁ : m₁.status ≠ .inProgress) (ran₂ : s.runFor k m = .next m₂)
    (halted₂ : m₂.status ≠ .inProgress) : m₁ = m₂ := by
  have left := runFor_of_le (Nat.le_max_left n k) ran₁ halted₁
  have right := runFor_of_le (Nat.le_max_right n k) ran₂ halted₂
  exact Step.next.inj (left.symm.trans right)

/-! ### Full counters -/

/-- A run that ends has halted in time. If it has needed the last cycle, a limit has ended it. -/
theorem run_next (ran : s.run m = .next m') :
    s.runFor (countableCycles + 1) m = .next m' ∧ m'.status ≠ .inProgress ∧
      (m'.exceeded = none → s.runFor countableCycles m = .next m') := by
  unfold run at ran
  split at ran
  next there =>
    split at ran
    next live =>
      obtain ⟨e, -, rfl, cycled⟩ := lastCycle_next ran
      refine ⟨?_, nofun, nofun⟩
      rw [runFor_add there, runFor_one live, cycled]
    next halted =>
      cases ran
      exact ⟨runFor_of_le (Nat.le_succ _) there halted, halted, fun _ => there⟩
  · cases ran

theorem run_of_halted {n : Nat} (le : n ≤ countableCycles) (ran : s.runFor n m = .next m')
    (halted : m'.status ≠ .inProgress) : s.run m = .next m' := by
  rw [run, runFor_of_le le ran halted]
  exact if_neg halted

/-- The run ends because a limit is exceeded. -/
def EndsBy (s : Search E) (e : MatchError) : Prop :=
  ∃ n m, s.runFor n s.start = .next m ∧ m.status = .failed ∧ m.exceeded = some e

/-- The machine is still in progress when its counter of cycles is full, and no limit is reached there. -/
def Outlasts (s : Search E) : Prop :=
  ∃ m, s.runFor countableCycles s.start = .next m ∧ m.status = .inProgress ∧
    s.cyclesUsedUp m.cycles = none

/-- A run ends where its machine halts, unless the counter of cycles is full before. -/
theorem run_or_outlasts {k : Nat} (ran : s.runFor k s.start = .next m) (halted : m.status ≠ .inProgress) :
    s.run s.start = .next m ∨ countableCycles < k ∧ s.Outlasts ∧
      ∃ announced, s.run s.start = .fault .additionOverflow announced := by
  by_cases le : k ≤ countableCycles
  · exact .inl (run_of_halted le ran halted)
  obtain ⟨j, eq⟩ := Nat.exists_eq_add_of_lt (Nat.lt_of_not_le le)
  rw [eq, Nat.add_assoc, runFor_append] at ran
  cases counted : s.runFor countableCycles s.start with
  | fault f m' => rw [counted] at ran; cases ran
  | next m' =>
    rw [counted] at ran
    have ran : s.runFor (j + 1) m' = .next m := ran
    by_cases live : m'.status = .inProgress
    · have last : s.run s.start = s.lastCycle m' := by rw [run, counted]; exact if_pos live
      rw [runFor_live j live] at ran
      cases cycled : s.cycle m' with
      | fault f m'' => rw [cycled] at ran; cases ran
      | next m'' =>
        rw [cycled] at ran
        rcases lastCycle_of_cycle cycled with ended | ⟨unused, announced, overflow⟩
        · obtain ⟨e, -, rfl, -⟩ := lastCycle_next ended
          have same := (runFor_halted j (by simp [halt])).symm.trans ran
          exact .inl (last.trans (ended.trans same))
        · exact .inr ⟨Nat.lt_of_not_le le, ⟨m', counted, live, unused⟩, announced, last.trans overflow⟩
    · have same := (runFor_halted (j + 1) live).symm.trans ran
      exact .inl ((run_of_halted (Nat.le_refl _) counted live).trans same)

/-- A machine that is still in progress at the end has not halted before. -/
theorem Outlasts.live {n : Nat} (outlasts : s.Outlasts) (le : n ≤ countableCycles)
    (ran : s.runFor n s.start = .next m) : m.status = .inProgress := by
  obtain ⟨last, counted, live, -⟩ := outlasts
  refine Decidable.byContradiction fun halted => ?_
  have same := (runFor_of_le le ran halted).symm.trans counted
  cases same
  exact halted live

end Search

end PatternMachine

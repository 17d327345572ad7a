import PatternMachine.Proofs.Machine.Frame
import PatternMachine.Proofs.Machine.Positions

/-! Limits cut a run short. The free run has no limit on cycles and always room for one more save point. A
run goes along with the free run until the first cycle that its limits do not allow. That the two agree up
to there is shown once, by induction on the number of cycles; what the limits do follows from the cycle
where they do it. -/
namespace PatternMachine

namespace Search

variable {E : Type} {s : Search E} {m m' : Machine}

/-! ### The free run -/

/-- The same search under other limits. -/
def withLimits (s : Search E) (cycleLimit : Option Nat) (maxSavePoints : Nat) : Search E :=
  { s with settings := { s.settings with cycleLimit, maxSavePoints } }

section

variable [DecidableEq E]

/-- A cycle that no limit stops: there is room for one more save point. -/
def freeCycle (s : Search E) (m : Machine) : Step :=
  (s.withLimits none (m.savePoints.depth + 1)).cycle m

/-- At most `n` cycles that no limit stops. -/
def freeRunFor (s : Search E) : Nat → Step
  | 0 => .next s.start
  | n + 1 => (s.freeRunFor n).thenBy s.freeCycle

/-- The free run has not halted after `n` cycles. -/
def GoesOn (s : Search E) (n : Nat) (m : Machine) : Prop :=
  s.freeRunFor n = .next m ∧ m.status = .inProgress

/-- After `n` cycles of the free run there are as many save points as are allowed, and the next cycle adds
another one. -/
def Overfills (s : Search E) (n : Nat) : Prop :=
  ∃ m m', s.GoesOn n m ∧ m.savePoints.depth = s.settings.maxSavePoints ∧
    s.freeCycle m = .next m' ∧ m'.savePoints.depth = s.settings.maxSavePoints + 1

end

/-! ### One cycle -/

theorem pushSavePoint_room (resume : Address) (position : Option Nat)
    (room : m.savePoints.depth < s.settings.maxSavePoints) :
    s.pushSavePoint m resume position =
      { m with
        savePoints := m.savePoints.push ⟨resume, position, m.callStack.depth, m.trail.depth⟩
        pc := m.pc.next } := if_pos room

theorem pushSavePoint_full (resume : Address) (position : Option Nat)
    (full : m.savePoints.depth = s.settings.maxSavePoints) :
    s.pushSavePoint m resume position =
      s.halt m (.backtrackLimitExceeded s.settings.maxSavePoints) :=
  if_neg (by omega)

/-- The limits matter to saving only. -/
theorem obey_withLimits (s : Search E) (m : Machine) {e : Effect}
    (noSave : ∀ resume position, e ≠ .save resume position) (limit : Option Nat) (room : Nat) :
    (s.withLimits limit room).obey m e = s.obey m e := by
  cases e with
  | save resume position => exact absurd rfl (noSave resume position)
  | _ => rfl

theorem obey_depth (s : Search E) (m : Machine) {e : Effect}
    (noSave : ∀ resume position, e ≠ .save resume position) :
    (s.obey m e).machine.savePoints.depth ≤ m.savePoints.depth ∧
      (s.obey m e).machine.exceeded = m.exceeded := by
  by_cases accepts : e = .accept
  · subst accepts
    exact ⟨Nat.le_refl _, rfl⟩
  · have keeps := s.obey_keeps m noSave accepts
    exact ⟨keeps.depth, keeps.exceeded⟩

theorem cyclesUsedUp_eq_none {cycles : Nat} :
    s.cyclesUsedUp cycles = none ↔ ∀ limit, s.settings.cycleLimit = some limit → cycles < limit := by
  unfold cyclesUsedUp
  cases s.settings.cycleLimit with
  | none => simp
  | some limit => simp

theorem cyclesUsedUp_eq_some {cycles : Nat} {limit : Nat} (limited : s.settings.cycleLimit = some limit)
    (used : limit ≤ cycles) : s.cyclesUsedUp cycles = some (.cycleLimitExceeded limit) := by
  unfold cyclesUsedUp
  rw [limited]
  exact if_pos used

section

variable [DecidableEq E]

theorem effect_withLimits (s : Search E) (limit : Option Nat) (room : Nat) (c : Configuration)
    (op : Operation) : (s.withLimits limit room).effect c op = s.effect c op := by
  cases op <;> rfl

theorem freeCycle_eq (s : Search E) (m : Machine) :
    s.freeCycle m =
      match s.check m with
      | some f => .fault f m
      | none => (s.withLimits none (m.savePoints.depth + 1)).turn m := by
  have check (room : Nat) : (s.withLimits none room).check m = s.check m := rfl
  rw [freeCycle, cycle_eq, check]
  rfl

theorem turn_withLimits {limit : Option Nat} {room : Nat} {log : Log} {op : Operation}
    (fetched : s.fetch m = .ok ({ m with log, cycles := m.cycles + 1 }, op)) :
    (s.withLimits limit room).turn m =
      (s.withLimits limit room).obey { m with log, cycles := m.cycles + 1 } (s.effect m.config op) := by
  rw [turn_of_ok (s := s.withLimits limit room) fetched, effect_withLimits]

/-- Where the limit on cycles allows it, a cycle is that of the free run, unless there is no room left for the
save point that it adds. -/
theorem cycle_room (fits : m.savePoints.depth ≤ s.settings.maxSavePoints)
    (allowed : s.cyclesUsedUp m.cycles = none) :
    (s.cycle m = s.freeCycle m ∧ (s.cycle m).machine.savePoints.depth ≤ s.settings.maxSavePoints) ∨
      (m.savePoints.depth = s.settings.maxSavePoints ∧
        (∃ m', s.freeCycle m = .next m' ∧ m'.savePoints.depth = s.settings.maxSavePoints + 1) ∧
        ∃ log, s.cycle m = .next (s.halt { m with log, cycles := m.cycles + 1 }
          (.backtrackLimitExceeded s.settings.maxSavePoints))) := by
  rw [freeCycle_eq, cycle_eq, allowed]
  cases s.check m with
  | some f => exact .inl ⟨rfl, fits⟩
  | none =>
    dsimp only
    rcases s.fetch_cases m with ⟨f, log, cycles, fetched⟩ | ⟨log, op, fetched⟩
    · have turned := turn_of_error fetched
      have turned' : (s.withLimits none (m.savePoints.depth + 1)).turn m = .fault f { m with log, cycles } :=
        turn_of_error fetched
      exact .inl ⟨turned.trans turned'.symm, by rw [turned]; exact fits⟩
    rw [turn_of_ok fetched, turn_withLimits fetched]
    generalize s.effect m.config op = e
    by_cases saves : ∃ resume position, e = .save resume position
    · obtain ⟨resume, position, rfl⟩ := saves
      let counted : Machine := { m with log, cycles := m.cycles + 1 }
      have free := pushSavePoint_room (s := s.withLimits none (m.savePoints.depth + 1)) (m := counted)
        resume position (Nat.lt_succ_self _)
      rcases Nat.lt_or_eq_of_le fits with room | full
      · have pushed := pushSavePoint_room (m := counted) resume position room
        refine .inl ⟨congrArg Step.next (pushed.trans free.symm), ?_⟩
        change (s.pushSavePoint counted resume position).savePoints.depth ≤ s.settings.maxSavePoints
        rw [pushed]
        exact room
      · exact .inr ⟨full, ⟨_, congrArg Step.next free, congrArg (· + 1) full⟩, log,
          congrArg Step.next (pushSavePoint_full (m := counted) resume position full)⟩
    · have noSave (resume : Address) (position : Option Nat) : e ≠ .save resume position :=
        fun eq => saves ⟨resume, position, eq⟩
      refine .inl ⟨(s.obey_withLimits _ noSave _ _).symm, ?_⟩
      exact Nat.le_trans (s.obey_depth _ noSave).1 fits

/-- A cycle of the free run counts as one, exceeds no limit and adds one save point at most. -/
theorem freeCycle_spec (cycled : s.freeCycle m = .next m') :
    m'.cycles = m.cycles + 1 ∧ m'.exceeded = m.exceeded ∧
      m'.savePoints.depth ≤ m.savePoints.depth + 1 := by
  rw [freeCycle_eq] at cycled
  split at cycled
  · cases cycled
  rcases s.fetch_cases m with ⟨f, log, cycles, fetched⟩ | ⟨log, op, fetched⟩
  · have turned : (s.withLimits none (m.savePoints.depth + 1)).turn m = .fault f { m with log, cycles } :=
      turn_of_error fetched
    rw [turned] at cycled
    cases cycled
  rw [turn_withLimits fetched] at cycled
  have counted := ((s.withLimits none (m.savePoints.depth + 1)).obey_spec { m with log, cycles := m.cycles + 1 }
    (s.effect m.config op)).1
  rw [cycled] at counted
  refine ⟨counted, ?_⟩
  generalize s.effect m.config op = e at cycled
  by_cases saves : ∃ resume position, e = .save resume position
  · obtain ⟨resume, position, rfl⟩ := saves
    have pushed := pushSavePoint_room (s := s.withLimits none (m.savePoints.depth + 1))
      (m := { m with log, cycles := m.cycles + 1 }) resume position (Nat.lt_succ_self _)
    rw [obey, pushed] at cycled
    cases cycled
    exact ⟨rfl, Nat.le_refl _⟩
  · have noSave (resume : Address) (position : Option Nat) : e ≠ .save resume position :=
      fun eq => saves ⟨resume, position, eq⟩
    obtain ⟨depth, exceeded⟩ := (s.withLimits none (m.savePoints.depth + 1)).obey_depth
      { m with log, cycles := m.cycles + 1 } noSave
    rw [cycled] at depth exceeded
    exact ⟨exceeded, Nat.le_succ_of_le depth⟩

/-! ### The run up to the limits -/

/-- The limits allow the cycle that comes after `n` cycles of the free run. -/
structure Allows (s : Search E) (n : Nat) : Prop where
  cycles : ∀ m, s.GoesOn n m → ∀ limit, s.settings.cycleLimit = some limit → n < limit
  room : ¬s.Overfills n

variable {n k : Nat}

theorem freeRunFor_succ (s : Search E) (n : Nat) :
    s.freeRunFor (n + 1) = (s.freeRunFor n).thenBy s.freeCycle := rfl

theorem freeRunFor_spec (ran : s.freeRunFor n = .next m) :
    m.exceeded = none ∧ m.savePoints.depth ≤ n ∧ (m.status = .inProgress → m.cycles = n) := by
  induction n generalizing m with
  | zero => cases ran; exact ⟨rfl, Nat.le_refl _, fun _ => rfl⟩
  | succ n ih =>
    rw [freeRunFor_succ] at ran
    cases before : s.freeRunFor n with
    | fault f m' => rw [before] at ran; cases ran
    | next m' =>
      rw [before] at ran
      obtain ⟨exceeded, depth, counted⟩ := ih before
      by_cases live : m'.status = .inProgress
      · rw [Step.thenBy_live live] at ran
        obtain ⟨counts, exceeds, adds⟩ := freeCycle_spec ran
        exact ⟨exceeds.trans exceeded, by omega, fun _ => by rw [counts, counted live]⟩
      · rw [Step.thenBy_halted live] at ran
        cases ran
        exact ⟨exceeded, Nat.le_succ_of_le depth, fun live' => absurd live' live⟩

/-- What goes on has gone on before. -/
theorem GoesOn.earlier (goes : s.GoesOn n m) (le : k ≤ n) : ∃ m', s.GoesOn k m' := by
  induction n generalizing m with
  | zero => exact ⟨m, Nat.le_zero.mp le ▸ goes⟩
  | succ n ih =>
    rcases Nat.lt_or_eq_of_le le with lt | rfl
    · obtain ⟨ran, live⟩ := goes
      rw [freeRunFor_succ] at ran
      cases before : s.freeRunFor n with
      | fault f m' => rw [before] at ran; cases ran
      | next m' =>
        rw [before] at ran
        by_cases live' : m'.status = .inProgress
        · exact ih ⟨before, live'⟩ (Nat.le_of_lt_succ lt)
        · rw [Step.thenBy_halted live'] at ran
          cases ran
          exact absurd live live'
    · exact ⟨m, goes⟩

/-- As long as the limits allow all cycles, the run is the free run. -/
theorem runFor_of_allows (allowed : ∀ k < n, s.Allows k) :
    s.runFor n s.start = s.freeRunFor n ∧
      (s.freeRunFor n).machine.savePoints.depth ≤ s.settings.maxSavePoints := by
  induction n with
  | zero => exact ⟨rfl, Nat.zero_le _⟩
  | succ n ih =>
    obtain ⟨same, fits⟩ := ih fun k lt => allowed k (Nat.lt_succ_of_lt lt)
    rw [runFor_succ, same, freeRunFor_succ]
    cases ran : s.freeRunFor n with
    | fault f m => rw [ran] at fits; exact ⟨rfl, fits⟩
    | next m =>
      rw [ran] at fits
      by_cases live : m.status = .inProgress
      · have goes : s.GoesOn n m := ⟨ran, live⟩
        obtain ⟨cycles, room⟩ := allowed n (Nat.lt_succ_self _)
        have counted : m.cycles = n := (freeRunFor_spec ran).2.2 live
        have fuel : s.cyclesUsedUp m.cycles = none :=
          cyclesUsedUp_eq_none.mpr fun limit limited => counted ▸ cycles m goes limit limited
        rw [Step.thenBy_live live, Step.thenBy_live live]
        rcases cycle_room fits fuel with ⟨same, fits⟩ | ⟨full, ⟨m', pushed, overfull⟩, -⟩
        · exact ⟨same, same ▸ fits⟩
        · exact absurd ⟨m, m', goes, full, pushed, overfull⟩ room
      · rw [Step.thenBy_halted live, Step.thenBy_halted live]
        exact ⟨rfl, fits⟩

/-- How the limits end a run in the cycle after `k` cycles. -/
inductive Stops (s : Search E) (k : Nat) : Machine → Prop
  | cycles {m : Machine} (goes : s.GoesOn k m) (limited : s.settings.cycleLimit = some k) :
    Stops s k (s.halt m (.cycleLimitExceeded k))
  | room {m : Machine} (log : Log) (goes : s.GoesOn k m)
    (full : m.savePoints.depth = s.settings.maxSavePoints) (overfull : s.Overfills k)
    (allowed : ∀ limit, s.settings.cycleLimit = some limit → k < limit) :
    Stops s k (s.halt { m with log, cycles := m.cycles + 1 }
      (.backtrackLimitExceeded s.settings.maxSavePoints))

theorem Stops.failed (stop : s.Stops k m) : m.status = .failed := by
  cases stop <;> rfl

theorem Stops.exceeded (stop : s.Stops k m) : ∃ e, m.exceeded = some e := by
  cases stop <;> exact ⟨_, rfl⟩

/-- Cycles are counted, so the limit on them is met after as many cycles. -/
theorem runFor_outOfCycles (valid : s.range.start ≤ s.range.stop) (before : ∀ j < k, s.Allows j)
    (goes : s.GoesOn k m) (limited : s.settings.cycleLimit = some k) :
    s.runFor (k + 1) s.start = .next (s.halt m (.cycleLimitExceeded k)) := by
  have ran : s.runFor k s.start = .next m := (runFor_of_allows before).1.trans goes.1
  have cycled : s.cycle m = .next (s.halt m (.cycleLimitExceeded k)) := by
    rw [cycle_eq, runFor_check valid ran goes.2, (freeRunFor_spec goes.1).2.2 goes.2,
      cyclesUsedUp_eq_some limited (Nat.le_refl k)]
  rw [runFor_succ, ran, Step.thenBy_live goes.2, cycled]

theorem runFor_outOfRoom (before : ∀ j < k, s.Allows j) (overfull : s.Overfills k)
    (allowed : ∀ limit, s.settings.cycleLimit = some limit → k < limit) :
    ∃ m, s.Stops k m ∧ s.runFor (k + 1) s.start = .next m := by
  obtain ⟨m, m', goes, full, cycled, more⟩ := overfull
  have ran : s.runFor k s.start = .next m := (runFor_of_allows before).1.trans goes.1
  have counted : m.cycles = k := (freeRunFor_spec goes.1).2.2 goes.2
  have fuel : s.cyclesUsedUp m.cycles = none := counted ▸ cyclesUsedUp_eq_none.mpr allowed
  rcases cycle_room (Nat.le_of_eq full) fuel with ⟨same, fits⟩ | ⟨-, -, log, halted⟩
  · rw [same, cycled] at fits
    have fits : m'.savePoints.depth ≤ s.settings.maxSavePoints := fits
    omega
  · refine ⟨_, .room log goes full ⟨m, m', goes, full, cycled, more⟩ allowed, ?_⟩
    rw [runFor_succ, ran, Step.thenBy_live goes.2, halted]

/-- The first cycle that the limits do not allow is the last one. -/
theorem runFor_of_stop (valid : s.range.start ≤ s.range.stop) (before : ∀ j < k, s.Allows j)
    (stops : ¬s.Allows k) : ∃ m, s.Stops k m ∧ ∀ n > k, s.runFor n s.start = .next m := by
  suffices next : ∃ m, s.Stops k m ∧ s.runFor (k + 1) s.start = .next m by
    obtain ⟨m, stop, ran⟩ := next
    refine ⟨m, stop, fun n gt => ?_⟩
    obtain ⟨d, rfl⟩ := Nat.exists_eq_add_of_lt gt
    have later : k + d + 1 = k + 1 + d := by omega
    rw [later, runFor_add ran, runFor_halted d (by simp [stop.failed])]
  by_cases out : ∃ m limit, s.GoesOn k m ∧ s.settings.cycleLimit = some limit ∧ limit ≤ k
  · obtain ⟨m, limit, goes, limited, used⟩ := out
    -- an earlier limit would have stopped the run before
    have now : limit = k := by
      rcases Nat.lt_or_eq_of_le used with lt | eq
      · obtain ⟨m', goes'⟩ := goes.earlier used
        exact absurd ((before limit lt).cycles m' goes' limit limited) (Nat.lt_irrefl _)
      · exact eq
    subst now
    exact ⟨_, .cycles goes limited, runFor_outOfCycles valid before goes limited⟩
  · have allowed (m : Machine) (goes : s.GoesOn k m) (limit : Nat)
        (limited : s.settings.cycleLimit = some limit) : k < limit :=
      Nat.lt_of_not_le fun used => out ⟨m, limit, goes, limited, used⟩
    have overfull : s.Overfills k := Classical.byContradiction fun room => stops ⟨allowed, room⟩
    have ⟨m, _, goes, _⟩ := overfull
    exact runFor_outOfRoom before overfull (allowed m goes)

/-- Either the limits allow all cycles, or there is a first one that they do not allow. -/
theorem allows_or_not (s : Search E) (n : Nat) :
    (∀ k < n, s.Allows k) ∨ ∃ k < n, (∀ j < k, s.Allows j) ∧ ¬s.Allows k := by
  induction n with
  | zero => exact .inl nofun
  | succ n ih =>
    rcases ih with all | ⟨k, lt, before, stops⟩
    · by_cases last : s.Allows n
      · refine .inl fun k lt => ?_
        rcases Nat.lt_or_eq_of_le (Nat.le_of_lt_succ lt) with lt | rfl
        · exact all k lt
        · exact last
      · exact .inr ⟨n, Nat.lt_succ_self n, all, last⟩
    · exact .inr ⟨k, Nat.lt_succ_of_lt lt, before, stops⟩

/-- The run is the free run, or the limits have ended it. -/
theorem runFor_cases (valid : s.range.start ≤ s.range.stop) (n : Nat) :
    (∀ k < n, s.Allows k) ∨
      ∃ k < n, (∀ j < k, s.Allows j) ∧ ∃ m, s.Stops k m ∧ s.runFor n s.start = .next m := by
  rcases s.allows_or_not n with all | ⟨k, lt, before, stops⟩
  · exact .inl all
  · obtain ⟨m, stop, ran⟩ := runFor_of_stop valid before stops
    exact .inr ⟨k, lt, before, m, stop, ran n lt⟩

/-- An error tells where the limits have ended the run. -/
theorem stop_of_exceeded (valid : s.range.start ≤ s.range.stop) {e : MatchError}
    (ran : s.runFor n s.start = .next m) (exceeded : m.exceeded = some e) :
    ∃ k, (∀ j < k, s.Allows j) ∧ s.Stops k m := by
  rcases runFor_cases valid n with allowed | ⟨k, -, before, m', stop, ran'⟩
  · have clear := (freeRunFor_spec ((runFor_of_allows allowed).1.symm.trans ran)).1
    cases clear.symm.trans exceeded
  · cases ran.symm.trans ran'
    exact ⟨k, before, stop⟩

/-- Without an error, the limits have allowed all cycles. -/
theorem allows_of_clear (valid : s.range.start ≤ s.range.stop)
    (clear : ∀ m, s.runFor n s.start = .next m → m.exceeded = none) : ∀ k < n, s.Allows k := by
  rcases runFor_cases valid n with allowed | ⟨k, -, -, m, stop, ran⟩
  · exact allowed
  · obtain ⟨e, exceeded⟩ := stop.exceeded
    cases (clear m ran).symm.trans exceeded

theorem Stops.depth (stop : s.Stops k m) (before : ∀ j < k, s.Allows j) :
    m.savePoints.depth ≤ s.settings.maxSavePoints := by
  cases stop with
  | @cycles m goes limited =>
    have fits := (runFor_of_allows before).2
    rw [goes.1] at fits
    obtain ⟨log, eq⟩ := s.halt_eq m (.cycleLimitExceeded k)
    rw [eq]
    exact fits
  | @room m log goes full overfull allowed =>
    obtain ⟨log', eq⟩ := s.halt_eq { m with log, cycles := m.cycles + 1 }
      (.backtrackLimitExceeded s.settings.maxSavePoints)
    rw [eq]
    exact Nat.le_of_eq full

/-! ### Other limits -/

theorem freeRunFor_withLimits (s : Search E) (limit : Option Nat) (room n : Nat) :
    (s.withLimits limit room).freeRunFor n = s.freeRunFor n := by
  induction n with
  | zero => rfl
  | succ n ih => rw [freeRunFor_succ, freeRunFor_succ, ih]; rfl

/-- Limits allow what lower limits have allowed. -/
theorem Allows.raise {limit : Option Nat} {room : Nat}
    (cycles : ∀ l, limit = some l → ∃ l', s.settings.cycleLimit = some l' ∧ l' ≤ l)
    (le : s.settings.maxSavePoints ≤ room) (allowed : ∀ j ≤ k, s.Allows j) :
    (s.withLimits limit room).Allows k := by
  have here := allowed k (Nat.le_refl k)
  refine ⟨fun m goes l limited => ?_, ?_⟩
  · obtain ⟨l', limited', le'⟩ := cycles l limited
    rw [GoesOn, freeRunFor_withLimits] at goes
    exact Nat.lt_of_lt_of_le (here.cycles m goes l' limited') le'
  · rintro ⟨m, m', goes, full, pushed, overfull⟩
    rw [GoesOn, freeRunFor_withLimits] at goes
    have fits := (runFor_of_allows fun j lt => allowed j (Nat.le_of_lt lt)).2
    rw [goes.1] at fits
    -- there is no room for more in the lower limit either
    have same : room = s.settings.maxSavePoints := by
      have fits : m.savePoints.depth ≤ s.settings.maxSavePoints := fits
      have full : m.savePoints.depth = room := full
      omega
    exact here.room ⟨m, m', goes, full.trans same, pushed, overfull.trans (congrArg (· + 1) same)⟩

/-! ### What limits do -/

/-- What the limits do to a run, told by the free run. -/
structure CutShort (s : Search E) : Prop where
  /-- The free run is the run without a limit on cycles and with room enough. -/
  free : ∀ n room, n ≤ room → (s.withLimits none room).runFor n s.start = s.freeRunFor n
  clear : ∀ n m, s.freeRunFor n = .next m → m.exceeded = none
  same : ∀ n, (∀ m, s.runFor n s.start = .next m → m.exceeded = none) →
    s.runFor n s.start = s.freeRunFor n
  cycles : ∀ limit, s.EndsBy (.cycleLimitExceeded limit) ↔
    s.settings.cycleLimit = some limit ∧ (∃ m, s.GoesOn limit m) ∧ ∀ k < limit, ¬s.Overfills k
  cycles_left : ∀ limit n m, s.runFor n s.start = .next m →
    m.exceeded = some (.cycleLimitExceeded limit) → m.cycles = limit
  room : ∀ most, s.EndsBy (.backtrackLimitExceeded most) ↔
    s.settings.maxSavePoints = most ∧ ∃ k, s.Overfills k ∧ (∀ j < k, ¬s.Overfills j) ∧
      ∀ limit, s.settings.cycleLimit = some limit → k < limit
  room_left : ∀ most n m, s.runFor n s.start = .next m →
    m.exceeded = some (.backtrackLimitExceeded most) → m.savePoints.depth = most
  /-- Faults are those of the free run too. -/
  otherwise : (∀ e, ¬s.EndsBy e) → ∀ n, s.runFor n s.start = s.freeRunFor n
  bounded : ∀ n, (s.runFor n s.start).machine.savePoints.depth ≤ s.settings.maxSavePoints
  /-- Higher limits change nothing about a run that halts within the limits. -/
  raised : ∀ limit room, (∀ l, limit = some l → ∃ l', s.settings.cycleLimit = some l' ∧ l' ≤ l) →
    s.settings.maxSavePoints ≤ room → ∀ m, m.exceeded = none →
      (∀ n, s.runFor n s.start = .next m → m.status ≠ .inProgress →
        (s.withLimits limit room).runFor n s.start = .next m) ∧
      (s.run s.start = .next m → (s.withLimits limit room).run s.start = .next m)

theorem withLimits_free (s : Search E) {room : Nat} (le : n ≤ room) :
    (s.withLimits none room).runFor n s.start = s.freeRunFor n := by
  have allowed (k : Nat) (lt : k < n) : (s.withLimits none room).Allows k := by
    refine ⟨nofun, ?_⟩
    rintro ⟨m, -, goes, full, -⟩
    rw [GoesOn, freeRunFor_withLimits] at goes
    have depth := (freeRunFor_spec goes.1).2.1
    have full : m.savePoints.depth = room := full
    omega
  exact (runFor_of_allows allowed).1.trans (s.freeRunFor_withLimits none room n)

theorem runFor_withLimits (valid : s.range.start ≤ s.range.stop) {limit : Option Nat} {room : Nat}
    (cycles : ∀ l, limit = some l → ∃ l', s.settings.cycleLimit = some l' ∧ l' ≤ l)
    (le : s.settings.maxSavePoints ≤ room) (clear : m.exceeded = none)
    (ran : s.runFor n s.start = .next m) : (s.withLimits limit room).runFor n s.start = .next m := by
  have allowed : ∀ k < n, s.Allows k := allows_of_clear valid fun m' ran' => by
    cases ran.symm.trans ran'
    exact clear
  have allowed' (k : Nat) (lt : k < n) : (s.withLimits limit room).Allows k :=
    .raise cycles le fun j le => allowed j (Nat.lt_of_le_of_lt le lt)
  have free := s.freeRunFor_withLimits limit room n
  exact (runFor_of_allows allowed').1.trans (free.trans ((runFor_of_allows allowed).1.symm.trans ran))

theorem endsBy_cycles (valid : s.range.start ≤ s.range.stop) {limit : Nat} :
    s.EndsBy (.cycleLimitExceeded limit) ↔
      s.settings.cycleLimit = some limit ∧ (∃ m, s.GoesOn limit m) ∧ ∀ k < limit, ¬s.Overfills k := by
  constructor
  · rintro ⟨n, m, ran, -, exceeded⟩
    obtain ⟨k, before, stop⟩ := stop_of_exceeded valid ran exceeded
    cases stop with
    | cycles goes limited =>
      cases exceeded
      exact ⟨limited, ⟨_, goes⟩, fun k lt => (before k lt).room⟩
    | room => cases exceeded
  · rintro ⟨limited, ⟨m, goes⟩, room⟩
    have before (k : Nat) (lt : k < limit) : s.Allows k := by
      refine ⟨fun m' goes' l limited' => ?_, room k lt⟩
      cases limited.symm.trans limited'
      exact lt
    have stops : ¬s.Allows limit := fun allowed =>
      absurd (allowed.cycles m goes limit limited) (Nat.lt_irrefl limit)
    obtain ⟨m', stop, ran⟩ := runFor_of_stop valid before stops
    refine ⟨limit + 1, m', ran _ (Nat.lt_succ_self limit), stop.failed, ?_⟩
    cases stop with
    | cycles => rfl
    | room log goes full overfull allowed => exact absurd (allowed limit limited) (Nat.lt_irrefl limit)

theorem endsBy_room (valid : s.range.start ≤ s.range.stop) {most : Nat} :
    s.EndsBy (.backtrackLimitExceeded most) ↔
      s.settings.maxSavePoints = most ∧ ∃ k, s.Overfills k ∧ (∀ j < k, ¬s.Overfills j) ∧
        ∀ limit, s.settings.cycleLimit = some limit → k < limit := by
  constructor
  · rintro ⟨n, m, ran, -, exceeded⟩
    obtain ⟨k, before, stop⟩ := stop_of_exceeded valid ran exceeded
    cases stop with
    | cycles => cases exceeded
    | room log goes full overfull allowed =>
      cases exceeded
      exact ⟨rfl, k, overfull, fun j lt => (before j lt).room, allowed⟩
  · rintro ⟨rfl, k, overfull, first, allowed⟩
    have before (j : Nat) (lt : j < k) : s.Allows j :=
      ⟨fun _ _ limit limited => Nat.lt_trans lt (allowed limit limited), first j lt⟩
    obtain ⟨m', stop, ran⟩ := runFor_of_stop valid before fun allows => allows.room overfull
    refine ⟨k + 1, m', ran _ (Nat.lt_succ_self k), stop.failed, ?_⟩
    cases stop with
    | cycles goes limited => exact absurd (allowed k limited) (Nat.lt_irrefl k)
    | room => rfl

/-- What is left when a limit has ended the run. -/
theorem left_of_exceeded (valid : s.range.start ≤ s.range.stop) {e : MatchError}
    (ran : s.runFor n s.start = .next m) (exceeded : m.exceeded = some e) :
    (∀ limit, e = .cycleLimitExceeded limit → m.cycles = limit) ∧
      ∀ most, e = .backtrackLimitExceeded most → m.savePoints.depth = most := by
  obtain ⟨k, -, stop⟩ := stop_of_exceeded valid ran exceeded
  cases stop with
  | @cycles m goes limited =>
    obtain ⟨log, eq⟩ := s.halt_eq m (.cycleLimitExceeded k)
    cases exceeded
    refine ⟨fun limit same => ?_, nofun⟩
    cases same
    rw [eq]
    exact (freeRunFor_spec goes.1).2.2 goes.2
  | @room m log goes full overfull allowed =>
    obtain ⟨log', eq⟩ := s.halt_eq { m with log, cycles := m.cycles + 1 }
      (.backtrackLimitExceeded s.settings.maxSavePoints)
    cases exceeded
    refine ⟨nofun, fun most same => ?_⟩
    cases same
    rw [eq]
    exact full

end

end Search

/-- Limits only cut a run short, at the first cycle of the free run that they do not allow. -/
theorem limits_cut_short {E : Type} [DecidableEq E] {program : Program E} {input : Array E} {range : Span}
    {settings : Settings} {s : Search E}
    (prepared : Search.prepare program input range settings = .ok s) : s.CutShort := by
  have valid : s.range.start ≤ s.range.stop := by
    obtain ⟨rfl, ordered, -⟩ := Search.prepare_spec prepared
    exact ordered
  refine ⟨fun n room le => s.withLimits_free le, fun n m ran => (Search.freeRunFor_spec ran).1,
    fun n clear => ?_, fun limit => Search.endsBy_cycles valid,
    fun limit n m ran exceeded => (Search.left_of_exceeded valid ran exceeded).1 limit rfl,
    fun most => Search.endsBy_room valid,
    fun most n m ran exceeded => (Search.left_of_exceeded valid ran exceeded).2 most rfl,
    fun endless n => ?_, fun n => ?_, fun limit room cycles le m clear => ⟨fun n ran _ => ?_, fun ran => ?_⟩⟩
  · exact (Search.runFor_of_allows (Search.allows_of_clear valid clear)).1
  · rcases Search.runFor_cases valid n with allowed | ⟨k, -, -, m, stop, ran⟩
    · exact (Search.runFor_of_allows allowed).1
    · obtain ⟨e, exceeded⟩ := stop.exceeded
      exact absurd ⟨n, m, ran, stop.failed, exceeded⟩ (endless e)
  · rcases Search.runFor_cases valid n with allowed | ⟨k, -, before, m, stop, ran⟩
    · rw [(Search.runFor_of_allows allowed).1]
      exact (Search.runFor_of_allows allowed).2
    · rw [ran]
      exact stop.depth before
  · exact Search.runFor_withLimits valid cycles le clear ran
  · obtain ⟨-, halted, counted⟩ := Search.run_next ran
    have raised := Search.runFor_withLimits valid cycles le clear (counted clear)
    exact Search.run_of_halted (Nat.le_refl _) raised halted

/-- A program that saves twice and accepts needs three cycles and room for two save points. -/
theorem limits_cut_short_saving :
    ∃ (p : Program Nat) (s : Search Nat),
      Search.prepare p #[] ⟨0, 0⟩ { maxSavePoints := 2, cycleLimit := some 3 } = .ok s ∧
      (∃ m, s.runFor 3 s.start = .next m ∧ m.status = .accepted ∧ m.cycles = 3 ∧
        ∀ limit room, 3 ≤ limit → 2 ≤ room →
          (s.withLimits (some limit) room).runFor 3 s.start = .next m) ∧
      (s.withLimits (some 2) 2).EndsBy (.cycleLimitExceeded 2) ∧
      (s.withLimits (some 2) 1).EndsBy (.backtrackLimitExceeded 1) := by
  let code : List (Except Fault Instruction) :=
    [Instruction.save (some ⟨2⟩), Instruction.save (some ⟨2⟩), Instruction.accept]
  let p : Program Nat := ⟨(code.filterMap Except.toOption).toArray, #[], #[], #[], #[],
    ⟨0, 0, 0, 0, 0, 0, 0⟩⟩
  let s : Search Nat := ⟨p, #[], ⟨0, 0⟩, { maxSavePoints := 2, cycleLimit := some 3 }⟩
  have prepared : Search.prepare p #[] ⟨0, 0⟩ { maxSavePoints := 2, cycleLimit := some 3 } = .ok s := rfl
  refine ⟨p, s, prepared, ?_, ?_, ?_⟩
  · have accepts : (s.runFor 3 s.start).leadsTo fun m =>
        m.exceeded = none ∧ m.status = .accepted ∧ m.cycles = 3 := by decide +kernel
    obtain ⟨m, ran, clear, accepted, counted⟩ := Step.exists_of_leadsTo accepts
    refine ⟨m, ran, accepted, counted, fun limit room cycles le => ?_⟩
    have higher (l : Nat) (eq : some limit = some l) : ∃ l', some 3 = some l' ∧ l' ≤ l :=
      ⟨3, rfl, Option.some.inj eq ▸ cycles⟩
    exact ((limits_cut_short prepared).raised (some limit) room higher le m clear).1 3 ran (by simp [accepted])
  · have halts : ((s.withLimits (some 2) 2).runFor 3 s.start).leadsTo fun m =>
        m.status = .failed ∧ m.exceeded = some (.cycleLimitExceeded 2) := by decide +kernel
    obtain ⟨m, ran, result⟩ := Step.exists_of_leadsTo halts
    exact ⟨3, m, ran, result⟩
  · have halts : ((s.withLimits (some 2) 1).runFor 2 s.start).leadsTo fun m =>
        m.status = .failed ∧ m.exceeded = some (.backtrackLimitExceeded 1) := by decide +kernel
    obtain ⟨m, ran, result⟩ := Step.exists_of_leadsTo halts
    exact ⟨2, m, ran, result⟩

end PatternMachine

import PatternMachine.Proofs.Machine.Refinement
import PatternMachine.Proofs.Machine.Thread

/-! Runs of threads, and what they say about runs of machines. A machine runs to where its thread goes,
unless a limit stops it before. -/
namespace PatternMachine

/-- Nothing comes after these. -/
def Move.Final : Move → Prop
  | .accepted _ | .failed => True
  | .next _ | .stuck => False

namespace Search

variable {E : Type} [DecidableEq E] {s : Search E} {r r' : SnapshotMachine}

/-- What is reached after some moves. -/
def after (s : Search E) : Nat → Move → Move
  | n + 1, .next t => s.after n (s.move t)
  | _, x => x

@[simp] theorem after_zero (x : Move) : s.after 0 x = x := by cases x <;> rfl

@[simp] theorem after_next (n : Nat) (t : Thread) :
    s.after (n + 1) (.next t) = s.after n (s.move t) := rfl

theorem after_end (n : Nat) {x : Move} (h : ∀ t, x ≠ .next t) : s.after n x = x := by
  cases x with
  | next t => exact absurd rfl (h t)
  | _ => cases n <;> rfl

theorem after_add (m n : Nat) (x : Move) : s.after (m + n) x = s.after n (s.after m x) := by
  induction m generalizing x with
  | zero => simp
  | succ m ih =>
    cases x with
    | next t => rw [Nat.succ_add, after_next, after_next, ih]
    | _ =>
      rw [after_end (m + 1) (by simp)]
      rw [after_end (m + 1 + n) (by simp), after_end n (by simp)]

/-- A move adds one save point, or removes some of the latest. -/
theorem move_saved {t t' : Thread} (h : s.move t = .next t') :
    (∃ sn, t'.savePoints = sn :: t.savePoints) ∨ t'.savePoints <:+ t.savePoints := by
  obtain ⟨-, op, -, h⟩ := move_next h
  generalize s.effect t.config op = e at h
  cases e with
  | fault f => cases h
  | go pc position => cases h; exact .inr (List.suffix_refl _)
  | say level text => cases h; exact .inr (List.suffix_refl _)
  | change c u => cases h; exact .inr (List.suffix_refl _)
  | save resume position => cases h; exact .inl ⟨_, rfl⟩
  | accept => cases h
  | abort reason => cases h
  | drop =>
    simp only [Thread.obey] at h
    split at h
    · cases h
    next saved => cases h; rw [saved]; exact .inr (List.suffix_cons _ _)
  | dropThrough target =>
    simp only [Thread.obey] at h
    split at h
    · cases h
    next rest dropped => cases h; exact .inr (Snapshot.dropThrough_suffix dropped)
  | backtrack =>
    simp only [Thread.obey, Move.fall] at h
    split at h
    · cases h
    next saved => cases h; rw [saved]; exact .inr (List.suffix_cons _ _)

/-- One move adds one save point at most. -/
theorem move_savePoints_le {t t' : Thread} (h : s.move t = .next t') :
    t'.savePoints.length ≤ t.savePoints.length + 1 := by
  rcases move_saved h with ⟨sn, eq⟩ | suffix
  · rw [eq]
    exact Nat.le_refl _
  · exact Nat.le_succ_of_le suffix.length_le

/-- The machine was stopped by a limit below the given numbers. -/
def Stopped (s : Search E) (cycles depth : Nat) (status : Status) (exceeded : Option MatchError) :
    Prop :=
  status = .failed ∧
    ((∃ limit, s.settings.cycleLimit = some limit ∧ limit < cycles ∧
        exceeded = some (.cycleLimitExceeded limit)) ∨
      (s.settings.maxSavePoints < depth ∧
        exceeded = some (.backtrackLimitExceeded s.settings.maxSavePoints)))

theorem copyingRunFor_halted (n : Nat) (h : r.status ≠ .inProgress) :
    s.copyingRunFor n r = .next r := by
  cases n with
  | zero => rfl
  | succ n => exact if_neg h

/-- A thread that ends takes its machine there. -/
theorem copyingRunFor_after {k n : Nat} (live : r.status = .inProgress)
    (final : (s.after k (.next r.thread)).Final) :
    ∃ r', s.copyingRunFor n r = .next r' ∧
      (s.Stopped (r.cycles + k) (r.savePoints.length + k) r'.status r'.exceeded ∨
        (r'.status = .inProgress ∧ n < k) ∨
        ((s.after k (.next r.thread)).Reached r' ∧ r'.exceeded = r.exceeded)) := by
  induction k generalizing r n with
  | zero => exact final.elim
  | succ k ih =>
    cases n with
    | zero => exact ⟨r, rfl, .inr (.inl ⟨live, Nat.succ_pos k⟩)⟩
    | succ n =>
      rw [after_next] at final ⊢
      have goes : s.move r.thread ≠ .stuck := by
        intro stuck
        rw [stuck, after_end _ (by simp)] at final
        exact final
      obtain ⟨r', cycled, result⟩ := copyingCycle_move live goes
      have first : s.copyingRunFor (n + 1) r = s.copyingRunFor n r' := by
        rw [copyingRunFor, if_pos live, cycled]
      rw [first]
      rcases result with ⟨failed, limited⟩ | ⟨reached, cycles, exceeded⟩
      · refine ⟨r', copyingRunFor_halted n (by simp [failed]), .inl ⟨failed, ?_⟩⟩
        rcases limited with ⟨limit, known, le, exceeded⟩ | ⟨le, exceeded⟩
        · exact .inl ⟨limit, known, by omega, exceeded⟩
        · exact .inr ⟨by omega, exceeded⟩
      · cases moved : s.move r.thread with
        | stuck => exact absurd moved goes
        | next t =>
          rw [moved] at final reached
          obtain ⟨rfl, live'⟩ := reached
          have bound := move_savePoints_le moved
          have bound : r'.savePoints.length ≤ r.savePoints.length + 1 := bound
          obtain ⟨r'', ran, result⟩ := ih (n := n) live' final
          refine ⟨r'', ran, ?_⟩
          rcases result with ⟨failed, limited⟩ | ⟨going, lt⟩ | ⟨reached, kept⟩
          · refine .inl ⟨failed, ?_⟩
            rcases limited with ⟨limit, known, lt, exceeded⟩ | ⟨lt, exceeded⟩
            · exact .inl ⟨limit, known, by omega, exceeded⟩
            · exact .inr ⟨by omega, exceeded⟩
          · exact .inr (.inl ⟨going, Nat.succ_lt_succ lt⟩)
          · exact .inr (.inr ⟨reached, kept.trans exceeded⟩)
        | accepted c =>
          rw [moved] at reached
          refine ⟨r', copyingRunFor_halted n (by simp [reached.2]), .inr (.inr ?_)⟩
          rw [after_end _ (by simp)]
          exact ⟨reached, exceeded⟩
        | failed =>
          rw [moved] at reached
          have failed : r'.status = .failed := reached
          refine ⟨r', copyingRunFor_halted n (by simp [failed]), .inr (.inr ?_)⟩
          rw [after_end _ (by simp)]
          exact ⟨reached, exceeded⟩

/-- A property of threads that keeps them from getting stuck keeps every run from faults. -/
theorem copyingRunFor_next {Good : Thread → Prop}
    (step : ∀ t, Good t → s.move t ≠ .stuck ∧ ∀ t', s.move t = .next t' → Good t')
    (n : Nat) (good : Good r.thread) : ∃ r', s.copyingRunFor n r = .next r' := by
  induction n generalizing r with
  | zero => exact ⟨r, rfl⟩
  | succ n ih =>
    by_cases live : r.status = .inProgress
    · obtain ⟨goes, keeps⟩ := step r.thread good
      obtain ⟨r', cycled, result⟩ := copyingCycle_move live goes
      rw [copyingRunFor, if_pos live, cycled]
      rcases result with ⟨failed, -⟩ | ⟨reached, -⟩
      · exact ⟨r', copyingRunFor_halted n (by simp [failed])⟩
      · cases moved : s.move r.thread with
        | stuck => exact absurd moved goes
        | next t =>
          rw [moved] at reached
          exact ih (reached.1 ▸ keeps t moved)
        | accepted c =>
          rw [moved] at reached
          exact ⟨r', copyingRunFor_halted n (by simp [reached.2])⟩
        | failed =>
          rw [moved] at reached
          have failed : r'.status = .failed := reached
          exact ⟨r', copyingRunFor_halted n (by simp [failed])⟩
    · exact ⟨r, copyingRunFor_halted (n + 1) live⟩

end Search

/-- The machine with the trail comes to where the machine with copies comes. -/
theorem Tracks.runFor_next {E : Type} [DecidableEq E] {s : Search E} {m : Machine}
    {r r' : SnapshotMachine} {n : Nat} (h : Tracks m r) (ran : s.copyingRunFor n r = .next r') :
    ∃ m', s.runFor n m = .next m' ∧ Tracks m' r' := by
  have agrees := h.runFor (s := s) n
  rw [ran] at agrees
  exact agrees.next

namespace Search

variable {E : Type} [DecidableEq E] {s : Search E}

/-- A machine that stays in progress follows its thread. -/
theorem cycle_thread {m m' : Machine} {r : SnapshotMachine} (tracks : Tracks m r)
    (live : m.status = .inProgress) (cycled : s.cycle m = .next m')
    (live' : m'.status = .inProgress) : ∃ r', Tracks m' r' ∧ s.move r.thread = .next r'.thread := by
  have agrees := tracks.cycle (s := s)
  rw [cycled] at agrees
  cases copied : s.copyingCycle r with
  | fault f r' => rw [copied] at agrees; exact agrees.elim
  | next r' =>
    rw [copied] at agrees
    have agrees : Tracks m' r' := agrees
    have going : r'.status = .inProgress := agrees.status.symm.trans live'
    exact ⟨r', agrees, copyingCycle_live (tracks.status.symm.trans live) copied going⟩

/-- A machine follows a thread that goes on, unless a limit stops it. -/
theorem cycle_next {m : Machine} {r : SnapshotMachine} {t : Thread} (tracks : Tracks m r)
    (live : m.status = .inProgress) (moved : s.move r.thread = .next t) :
    ∃ m', s.cycle m = .next m' ∧ ((m'.status = .failed ∧ m'.exceeded.isSome) ∨
      (m'.status = .inProgress ∧ ∃ r', Tracks m' r' ∧ r'.thread = t)) := by
  have goes : s.move r.thread ≠ .stuck := by simp [moved]
  obtain ⟨r', copied, result⟩ := copyingCycle_move (tracks.status.symm.trans live) goes
  have agrees := tracks.cycle (s := s)
  rw [copied] at agrees
  cases cycled : s.cycle m with
  | fault f m' => rw [cycled] at agrees; exact agrees.elim
  | next m' =>
    rw [cycled] at agrees
    have agrees : Tracks m' r' := agrees
    refine ⟨m', rfl, ?_⟩
    rw [moved] at result
    rcases result with ⟨failed, limited⟩ | ⟨⟨same, going⟩, -⟩
    · refine .inl ⟨agrees.status.trans failed, ?_⟩
      rw [agrees.exceeded]
      rcases limited with ⟨limit, -, -, exceeded⟩ | ⟨-, exceeded⟩ <;> rw [exceeded] <;> rfl
    · exact .inr ⟨agrees.status.trans going, r', agrees, same⟩

end Search

end PatternMachine

import PatternMachine.Proofs.Machine.Cycle

/-! What a cycle leaves alone: the count of cycles goes on by one, an error comes with a failure, and only
saving adds a save point. -/
namespace PatternMachine

/-- The count of cycles and the error have stayed, there is no further save point, and nothing has been
accepted. -/
structure Machine.Keeps (m m' : Machine) : Prop where
  cycles : m'.cycles = m.cycles
  exceeded : m'.exceeded = m.exceeded
  saved : m'.savePoints.items <:+ m.savePoints.items
  status : m'.status = .accepted → m.status = .accepted

namespace Machine.Keeps

variable {m m' m'' : Machine}

theorem depth (h : m.Keeps m') : m'.savePoints.depth ≤ m.savePoints.depth := by
  rw [m.savePoints.depth_eq, m'.savePoints.depth_eq]
  exact h.saved.length_le

theorem refl (m : Machine) : m.Keeps m := ⟨rfl, rfl, List.suffix_refl _, id⟩

theorem trans (h : m.Keeps m') (h' : m'.Keeps m'') : m.Keeps m'' :=
  ⟨h'.cycles.trans h.cycles, h'.exceeded.trans h.exceeded, h'.saved.trans h.saved,
    fun accepted => h.status (h'.status accepted)⟩

theorem note (m : Machine) (u : Undo) : m.Keeps (m.note u) := by
  unfold Machine.note
  split
  · exact refl m
  · exact ⟨rfl, rfl, List.suffix_refl _, id⟩

theorem dropUnusedTrail (m : Machine) : m.Keeps m.dropUnusedTrail := by
  unfold Machine.dropUnusedTrail
  split
  · exact ⟨rfl, rfl, List.suffix_refl _, id⟩
  · exact refl m

theorem undo (m : Machine) (u : Undo) : m.Keeps (m.undo u) := by
  cases u <;> exact ⟨rfl, rfl, List.suffix_refl _, id⟩

theorem undoLatest (n : Nat) (m : Machine) : m.Keeps (Machine.undoLatest n m) := by
  induction n generalizing m with
  | zero => exact refl m
  | succ n ih =>
    unfold Machine.undoLatest
    split
    · exact refl m
    next u trail popped =>
      have popped : m.Keeps { m with trail } := ⟨rfl, rfl, List.suffix_refl _, id⟩
      exact (popped.trans (undo _ u)).trans (ih _)

theorem pop {sp : SavePoint} {savePoints : Stack SavePoint}
    (popped : m.savePoints.pop? = some (sp, savePoints)) : m.Keeps { m with savePoints } := by
  refine ⟨rfl, rfl, ?_, id⟩
  rw [← Stack.push_of_pop? popped]
  exact List.suffix_cons _ _

theorem backtrack (m : Machine) : m.Keeps m.backtrack.machine := by
  unfold Machine.backtrack
  split
  · exact ⟨rfl, rfl, List.suffix_refl _, nofun⟩
  next sp savePoints popped =>
    have unwound : m.Keeps ({ m with savePoints }.unwind sp.trailEnd) :=
      (pop popped).trans (undoLatest _ _)
    generalize ({ m with savePoints } : Machine).unwind sp.trailEnd = left at unwound ⊢
    dsimp only
    split
    · have resumed : m.Keeps { left with
          pc := sp.resume, position := sp.position.getD left.position } :=
        ⟨unwound.cycles, unwound.exceeded, unwound.saved, unwound.status⟩
      exact resumed.trans (dropUnusedTrail _)
    · exact unwound

end Machine.Keeps

theorem Machine.clearThrough_suffix {target : Address} {savePoints left : Stack SavePoint}
    (cleared : Machine.clearThrough target savePoints = some left) :
    left.items <:+ savePoints.items := by
  have walk (items : List SavePoint) (depth : Nat) (eq : depth = items.length)
      (cleared : Machine.clearThrough.go target items depth eq = some left) : left.items <:+ items := by
    induction items generalizing depth with
    | nil => cases cleared
    | cons sp rest ih =>
      unfold Machine.clearThrough.go at cleared
      split at cleared
      · cases cleared
        exact List.suffix_cons _ _
      · exact (ih _ _ cleared).trans (List.suffix_cons _ _)
  exact walk _ _ _ cleared

namespace Search

variable {E : Type} {s : Search E} {m m' : Machine}

/-- Only saving adds a save point or exceeds a limit, and only accepting accepts. -/
theorem obey_keeps (s : Search E) (m : Machine) {e : Effect}
    (noSave : ∀ resume position, e ≠ .save resume position) (noAccept : e ≠ .accept) :
    m.Keeps (s.obey m e).machine := by
  cases e with
  | save resume position => exact absurd rfl (noSave resume position)
  | accept => exact absurd rfl noAccept
  | fault f => exact .refl m
  | go pc position => exact ⟨rfl, rfl, List.suffix_refl _, id⟩
  | say level text => exact ⟨rfl, rfl, List.suffix_refl _, id⟩
  | change c u =>
    have changed : m.Keeps { m with
        pc := c.pc, position := c.position, registers := c.registers, callStack := c.callStack } :=
      ⟨rfl, rfl, List.suffix_refl _, id⟩
    exact changed.trans (.note _ u)
  | drop =>
    simp only [obey]
    split
    · exact .refl m
    next popped =>
      have dropped := (Machine.Keeps.pop popped).trans (.dropUnusedTrail _)
      exact ⟨dropped.cycles, dropped.exceeded, dropped.saved, dropped.status⟩
  | dropThrough target =>
    simp only [obey]
    split
    · exact ⟨rfl, rfl, List.nil_suffix, id⟩
    next savePoints cleared =>
      have dropped : m.Keeps { m with savePoints } :=
        ⟨rfl, rfl, Machine.clearThrough_suffix cleared, id⟩
      have dropped := dropped.trans (.dropUnusedTrail _)
      exact ⟨dropped.cycles, dropped.exceeded, dropped.saved, dropped.status⟩
  | backtrack => exact .backtrack m
  | abort reason =>
    obtain ⟨log, eq⟩ := s.trace_eq { m with abortReason := reason, status := .failed }
      ("aborted: " ++ reason.getD "")
    simp only [obey, eq]
    exact ⟨rfl, rfl, List.suffix_refl _, fun accepted => by cases accepted⟩

/-- An error comes with a failure. -/
theorem obey_spec (s : Search E) (m : Machine) (e : Effect) :
    (s.obey m e).machine.cycles = m.cycles ∧
      ((s.obey m e).machine.exceeded = m.exceeded ∨ (s.obey m e).machine.status = .failed) ∧
      ((s.obey m e).machine.status = .accepted → m.status = .accepted ∨ e = .accept) := by
  by_cases accepts : e = .accept
  · subst accepts
    exact ⟨rfl, .inl rfl, fun _ => .inr rfl⟩
  by_cases saves : ∃ resume position, e = .save resume position
  · obtain ⟨resume, position, rfl⟩ := saves
    simp only [obey, pushSavePoint, Step.machine]
    split
    · exact ⟨rfl, .inl rfl, .inl⟩
    · obtain ⟨log, eq⟩ := s.halt_eq m (.backtrackLimitExceeded s.settings.maxSavePoints)
      rw [eq]
      exact ⟨rfl, .inr rfl, fun accepted => by cases accepted⟩
  · have keeps := s.obey_keeps m (fun resume position eq => saves ⟨resume, position, eq⟩) accepts
    exact ⟨keeps.cycles, .inl keeps.exceeded, fun accepted => .inl (keeps.status accepted)⟩

variable [DecidableEq E]

/-- A cycle counts as one, and an error comes with a failure. -/
theorem cycle_spec (cycled : s.cycle m = .next m') :
    m'.cycles ≤ m.cycles + 1 ∧
      (m'.status ≠ .failed → m'.cycles = m.cycles + 1 ∧ m'.exceeded = m.exceeded) := by
  obtain ⟨-, ⟨e, rfl⟩ | turned⟩ := cycle_halt_or_turn cycled
  · obtain ⟨log, eq⟩ := s.halt_eq m e
    rw [eq]
    exact ⟨Nat.le_succ _, fun unfailed => absurd rfl unfailed⟩
  · obtain ⟨log, op, obeyed⟩ := turn_next turned
    obtain ⟨cycles, exceeded, -⟩ := s.obey_spec { m with log, cycles := m.cycles + 1 } (s.effect m.config op)
    rw [obeyed] at cycles exceeded
    exact ⟨Nat.le_of_eq cycles, fun unfailed => ⟨cycles, exceeded.resolve_right unfailed⟩⟩

theorem runFor_spec {n : Nat} (ran : s.runFor n m = .next m') :
    m'.cycles ≤ m.cycles + n ∧ (m'.status = .inProgress → m'.cycles = m.cycles + n) ∧
      (m'.status ≠ .failed → m'.exceeded = m.exceeded) := by
  induction n generalizing m' with
  | zero => cases ran; exact ⟨Nat.le_refl _, fun _ => rfl, fun _ => rfl⟩
  | succ n ih =>
    rw [runFor_succ] at ran
    cases before : s.runFor n m with
    | fault f m'' => rw [before] at ran; cases ran
    | next m'' =>
      rw [before] at ran
      obtain ⟨le, counted, exceeded⟩ := ih before
      by_cases live : m''.status = .inProgress
      · rw [Step.thenBy_live live] at ran
        obtain ⟨le', spec⟩ := cycle_spec ran
        have counted := counted live
        have exceeded := exceeded (by simp [live])
        refine ⟨by omega, fun live' => ?_, fun unfailed => (spec unfailed).2.trans exceeded⟩
        have := (spec (by simp [live'])).1
        omega
      · rw [Step.thenBy_halted live] at ran
        cases ran
        exact ⟨by omega, fun live' => absurd live' live, exceeded⟩

end Search

end PatternMachine

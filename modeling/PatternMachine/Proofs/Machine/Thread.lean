import PatternMachine.Proofs.Assembler.Extension
import PatternMachine.Proofs.Machine.Snapshot

/-! Where a search goes depends on its configuration and its save points only. A thread is these two,
and moves without limits, counters and records. `copyingCycle_move` says that a machine follows its
thread until a limit stops it. -/
namespace PatternMachine

structure Thread where
  config : Configuration
  savePoints : List Snapshot

/-- What a thread does next. A stuck thread stands for every fault. -/
inductive Move where
  | next (t : Thread)
  | accepted (c : Configuration)
  | failed
  | stuck

/-- Resuming at the latest save point. -/
def Move.fall (position : Nat) : List Snapshot → Move
  | [] => .failed
  | sn :: rest => .next ⟨sn.config position, rest⟩

def Configuration.save (c : Configuration) (resume : Address) (position : Option Nat) : Snapshot :=
  ⟨resume, position, c.registers, c.callStack⟩

def Thread.obey (t : Thread) : Effect → Move
  | .fault _ => .stuck
  | .go pc position => .next { t with config := { t.config with pc, position } }
  | .say _ _ => .next { t with config := t.config.advance }
  | .change c _ => .next { t with config := c }
  | .save resume position => .next ⟨t.config.advance, t.config.save resume position :: t.savePoints⟩
  | .drop =>
    match t.savePoints with
    | [] => .stuck
    | _ :: rest => .next ⟨t.config.advance, rest⟩
  | .dropThrough target =>
    match Snapshot.dropThrough target t.savePoints with
    | none => .stuck
    | some rest => .next ⟨t.config.advance, rest⟩
  | .backtrack => .fall t.config.position t.savePoints
  | .accept => .accepted t.config
  | .abort _ => .failed

def SnapshotMachine.thread (r : SnapshotMachine) : Thread := ⟨r.config, r.savePoints⟩

/-- The machine has gone where the move leads. -/
def Move.Reached (r : SnapshotMachine) : Move → Prop
  | .next t => r.thread = t ∧ r.status = .inProgress
  | .accepted c => r.config = c ∧ r.status = .accepted
  | .failed => r.status = .failed
  | .stuck => False

namespace Search

variable {E : Type}

def Inside (s : Search E) (position : Nat) : Prop :=
  s.range.start ≤ position ∧ position ≤ s.range.stop

instance (s : Search E) (position : Nat) : Decidable (s.Inside position) :=
  inferInstanceAs (Decidable (_ ∧ _))

/-- The next move of a thread. -/
def move [DecidableEq E] (s : Search E) (t : Thread) : Move :=
  if s.Inside t.config.position then
    match s.program.operation? t.config.pc.index with
    | none => .stuck
    | some op => t.obey (s.effect t.config op)
  else .stuck

/-- The machine has been stopped by a limit. -/
def Limited (s : Search E) (r r' : SnapshotMachine) : Prop :=
  r'.status = .failed ∧
    ((∃ limit, s.settings.cycleLimit = some limit ∧ limit ≤ r.cycles ∧
        r'.exceeded = some (.cycleLimitExceeded limit)) ∨
      (s.settings.maxSavePoints ≤ r.savePoints.length ∧
        r'.exceeded = some (.backtrackLimitExceeded s.settings.maxSavePoints)))

variable {s : Search E} {r r' : SnapshotMachine}

theorem move_of_operation [DecidableEq E] {t : Thread} {op : Operation}
    (inside : s.Inside t.config.position)
    (known : s.program.operation? t.config.pc.index = some op) :
    s.move t = t.obey (s.effect t.config op) := by
  rw [move, if_pos inside, known]

theorem move_unstuck [DecidableEq E] {t : Thread} (goes : s.move t ≠ .stuck) :
    s.Inside t.config.position ∧ ∃ i op, s.program.code[t.config.pc.index]? = some i ∧
      i.decode = .ok op ∧ s.move t = t.obey (s.effect t.config op) := by
  have inside : s.Inside t.config.position :=
    Decidable.byContradiction fun outside => goes (if_neg outside)
  refine ⟨inside, ?_⟩
  cases fetched : s.program.code[t.config.pc.index]? with
  | none => exact absurd (by simp [move, Program.operation?, fetched]) goes
  | some i =>
    cases decoded : i.decode with
    | error f =>
      exact absurd (by simp [move, Program.operation?, fetched, decoded, Except.toOption]) goes
    | ok op =>
      refine ⟨i, op, rfl, decoded, move_of_operation inside ?_⟩
      simp [Program.operation?, fetched, decoded, Except.toOption]

theorem move_next [DecidableEq E] {t t' : Thread} (moved : s.move t = .next t') :
    s.Inside t.config.position ∧ ∃ op, s.program.operation? t.config.pc.index = some op ∧
      t.obey (s.effect t.config op) = .next t' := by
  unfold move at moved
  split at moved
  next inside =>
    cases known : s.program.operation? t.config.pc.index with
    | none => rw [known] at moved; cases moved
    | some op => rw [known] at moved; exact ⟨inside, op, rfl, moved⟩
  next => cases moved

theorem copyingTrace_eq (s : Search E) (r : SnapshotMachine) (text : String) :
    ∃ log, s.copyingTrace r text = { r with log } := by
  unfold copyingTrace
  split
  · exact ⟨_, rfl⟩
  · exact ⟨r.log, rfl⟩

/-- A machine obeys like its thread. -/
theorem copyingObey_move (r : SnapshotMachine) (live : r.status = .inProgress) (e : Effect)
    (goes : r.thread.obey e ≠ .stuck) :
    ∃ r', s.copyingObey r e = .next r' ∧
      ((r'.status = .failed ∧ s.settings.maxSavePoints ≤ r.savePoints.length ∧
          r'.exceeded = some (.backtrackLimitExceeded s.settings.maxSavePoints)) ∨
        ((r.thread.obey e).Reached r' ∧ r'.cycles = r.cycles ∧ r'.exceeded = r.exceeded)) := by
  cases e with
  | fault f => exact absurd rfl goes
  | go pc position => exact ⟨_, rfl, .inr ⟨⟨rfl, live⟩, rfl, rfl⟩⟩
  | say level text => exact ⟨_, rfl, .inr ⟨⟨rfl, live⟩, rfl, rfl⟩⟩
  | change c u => exact ⟨_, rfl, .inr ⟨⟨rfl, live⟩, rfl, rfl⟩⟩
  | accept => exact ⟨_, rfl, .inr ⟨⟨rfl, rfl⟩, rfl, rfl⟩⟩
  | save resume position =>
    refine ⟨_, rfl, ?_⟩
    unfold pushCopy
    by_cases room : r.savePoints.length < s.settings.maxSavePoints
    · rw [if_pos room]
      exact .inr ⟨⟨rfl, live⟩, rfl, rfl⟩
    · rw [if_neg room]
      exact .inl ⟨rfl, Nat.not_lt.mp room, rfl⟩
  | drop =>
    cases saved : r.savePoints with
    | nil => exact absurd (by simp [Thread.obey, SnapshotMachine.thread, saved]) goes
    | cons sn rest =>
      have eq : r.thread.obey .drop = .next ⟨r.config.advance, rest⟩ := by
        simp only [Thread.obey, SnapshotMachine.thread, saved]
      refine ⟨{ r with config := r.config.advance, savePoints := rest }, ?_, .inr ⟨?_, rfl, rfl⟩⟩
      · simp only [copyingObey, saved]; rfl
      · rw [eq]; exact ⟨rfl, live⟩
  | dropThrough target =>
    cases dropped : Snapshot.dropThrough target r.savePoints with
    | none => exact absurd (by simp [Thread.obey, SnapshotMachine.thread, dropped]) goes
    | some rest =>
      have eq : r.thread.obey (.dropThrough target) = .next ⟨r.config.advance, rest⟩ := by
        simp only [Thread.obey, SnapshotMachine.thread, dropped]
      refine ⟨{ r with config := r.config.advance, savePoints := rest }, ?_, .inr ⟨?_, rfl, rfl⟩⟩
      · simp only [copyingObey, dropped]; rfl
      · rw [eq]; exact ⟨rfl, live⟩
  | backtrack =>
    refine ⟨_, rfl, .inr ?_⟩
    cases saved : r.savePoints with
    | nil =>
      have eq : r.thread.obey .backtrack = .failed := by
        simp only [Thread.obey, SnapshotMachine.thread, saved]; rfl
      rw [SnapshotMachine.backtrack_nil saved, eq]
      exact ⟨rfl, rfl, rfl⟩
    | cons sn rest =>
      have eq : r.thread.obey .backtrack = .next ⟨sn.config r.config.position, rest⟩ := by
        simp only [Thread.obey, SnapshotMachine.thread, saved]; rfl
      rw [SnapshotMachine.backtrack_cons saved, eq]
      exact ⟨⟨rfl, live⟩, rfl, rfl⟩
  | abort reason =>
    refine ⟨_, rfl, .inr ?_⟩
    obtain ⟨log, eq⟩ := s.copyingTrace_eq { r with abortReason := reason, status := .failed }
      ("aborted: " ++ reason.getD "")
    rw [eq]
    exact ⟨rfl, rfl, rfl⟩

theorem copyingAnnounce_eq {i : Instruction} {op : Operation} (known : i.decode = .ok op)
    (r : SnapshotMachine) : ∃ log, s.copyingAnnounce r i = .ok { r with log } := by
  obtain ⟨text, spelled⟩ := Instruction.text_of_decode known
  unfold copyingAnnounce announcement
  rw [spelled]
  split
  · exact ⟨_, rfl⟩
  · exact ⟨r.log, rfl⟩

/-- A machine follows its thread, unless a limit stops it. -/
theorem copyingCycle_move [DecidableEq E] (live : r.status = .inProgress)
    (goes : s.move r.thread ≠ .stuck) :
    ∃ r', s.copyingCycle r = .next r' ∧
      (s.Limited r r' ∨ ((s.move r.thread).Reached r' ∧ r'.cycles = r.cycles + 1 ∧
        r'.exceeded = r.exceeded)) := by
  obtain ⟨inside, i, op, fetched, decoded, moved⟩ := move_unstuck goes
  have fetched : s.program.code[r.config.pc.index]? = some i := fetched
  have within : ¬(r.config.position < s.range.start ∨ s.range.stop < r.config.position) := by
    have := inside.1
    have := inside.2
    simp only [SnapshotMachine.thread] at *
    omega
  rw [moved] at goes ⊢
  unfold copyingCycle
  rw [if_neg (fun halted => halted live), if_neg within]
  cases used : s.cyclesUsedUp r.cycles with
  | some e =>
    refine ⟨_, rfl, .inl ⟨rfl, .inl ?_⟩⟩
    unfold cyclesUsedUp at used
    split at used
    next limit limited =>
      split at used
      next le => cases used; exact ⟨limit, limited, le, rfl⟩
      · cases used
    · cases used
  | none =>
    obtain ⟨log, announced⟩ := copyingAnnounce_eq (s := s) decoded r
    obtain ⟨r', obeyed, result⟩ := copyingObey_move (s := s)
      { r with log, cycles := r.cycles + 1 } live (s.effect r.config op) goes
    simp only [fetched, announced, decoded]
    refine ⟨r', obeyed, ?_⟩
    rcases result with ⟨failed, full, exceeded⟩ | reached
    · exact .inl ⟨failed, .inr ⟨full, exceeded⟩⟩
    · exact .inr reached

/-- A machine does not obey what its thread is stuck with. -/
theorem copyingObey_stuck {e : Effect} (stuck : r.thread.obey e = .stuck) :
    ∃ f r', s.copyingObey r e = .fault f r' := by
  cases e with
  | fault f => exact ⟨f, r, rfl⟩
  | drop =>
    cases saved : r.savePoints with
    | nil => exact ⟨.noSavePoint, r, by simp only [copyingObey, saved]⟩
    | cons sn rest => simp [Thread.obey, SnapshotMachine.thread, saved] at stuck
  | dropThrough target =>
    cases dropped : Snapshot.dropThrough target r.savePoints with
    | none => exact ⟨_, _, by simp only [copyingObey, dropped]; rfl⟩
    | some rest => simp [Thread.obey, SnapshotMachine.thread, dropped] at stuck
  | backtrack =>
    simp only [Thread.obey] at stuck
    cases saved : r.thread.savePoints with
    | nil => rw [saved] at stuck; cases stuck
    | cons sn rest => rw [saved] at stuck; cases stuck
  | _ => cases stuck

/-- A machine that stays in progress has moved like its thread. -/
theorem copyingCycle_live [DecidableEq E] (live : r.status = .inProgress)
    (cycled : s.copyingCycle r = .next r') (live' : r'.status = .inProgress) :
    s.move r.thread = .next r'.thread := by
  by_cases goes : s.move r.thread = .stuck
  · unfold copyingCycle at cycled
    rw [if_neg fun halted => halted live] at cycled
    split at cycled
    · cases cycled
    next within =>
      have inside : s.Inside r.thread.config.position := by
        simp only [Inside, SnapshotMachine.thread]
        omega
      cases used : s.cyclesUsedUp r.cycles with
      | some e =>
        rw [used] at cycled
        cases cycled
        cases live'
      | none =>
        rw [used] at cycled
        cases fetched : s.program.code[r.config.pc.index]? with
        | none => simp only [fetched] at cycled; cases cycled
        | some i =>
          cases decoded : i.decode with
          | error f =>
            simp only [fetched, decoded] at cycled
            split at cycled <;> cases cycled
          | ok op =>
            have known : s.program.operation? r.thread.config.pc.index = some op := by
              simp [Program.operation?, SnapshotMachine.thread, fetched, decoded, Except.toOption]
            obtain ⟨log, announced⟩ := copyingAnnounce_eq (s := s) decoded r
            simp only [fetched, decoded, announced] at cycled
            rw [move_of_operation inside known] at goes
            obtain ⟨f, r'', faulty⟩ := copyingObey_stuck (s := s)
              (r := { r with log, cycles := r.cycles + 1 }) goes
            exact absurd (cycled.symm.trans faulty) (by simp)
  · obtain ⟨r'', cycled', result⟩ := copyingCycle_move live goes
    rw [cycled] at cycled'
    cases cycled'
    rcases result with ⟨failed, -⟩ | ⟨reached, -⟩
    · rw [live'] at failed
      cases failed
    · cases moved : s.move r.thread with
      | next t =>
        rw [moved] at reached
        rw [reached.1]
      | accepted c =>
        rw [moved] at reached
        exact absurd (live'.symm.trans reached.2) (by decide)
      | failed =>
        rw [moved] at reached
        have failed : r'.status = .failed := reached
        exact absurd (live'.symm.trans failed) (by decide)
      | stuck => exact absurd moved goes

end Search

end PatternMachine

import PatternMachine.Proofs.Instruction.Decoding
import PatternMachine.Proofs.Machine.Trail

/-! The machine with the trail refines the machine with full copies: both go through the same states,
and the assertions that guard the trail never fail. -/
namespace PatternMachine

/-! ### Stacks and trails -/

namespace Stack

variable {α : Type}

def ofList (items : List α) : Stack α := ⟨items, items.length, rfl⟩

@[simp] theorem items_ofList (items : List α) : (ofList items).items = items := rfl

@[simp] theorem ofList_items (s : Stack α) : ofList s.items = s := Stack.ext rfl

theorem pop?_of_items_nil {s : Stack α} (h : s.items = []) : s.pop? = none := by
  obtain ⟨items, depth, eq⟩ := s
  cases h; rfl

theorem pop?_of_items_cons {s : Stack α} {a : α} {rest : List α} (h : s.items = a :: rest) :
    s.pop? = some (a, ofList rest) := by
  obtain ⟨items, depth, eq⟩ := s
  cases h
  exact congrArg (fun t => some (a, t)) (Stack.ext rfl)

end Stack

namespace Machine

theorem undo_eq (m : Machine) (u : Undo) :
    m.undo u = { m with
      registers := (u.revert m.config.mutable).registers
      callStack := (u.revert m.config.mutable).callStack } := by
  cases u <;> rfl

theorem undoLatest_eq (newer older : List Undo) (m : Machine)
    (h : m.trail.items = newer ++ older) :
    undoLatest newer.length m = { m with
      trail := .ofList older
      registers := (revertAll newer m.config.mutable).registers
      callStack := (revertAll newer m.config.mutable).callStack } := by
  induction newer generalizing m with
  | nil =>
    have trail : m.trail = .ofList older := Stack.ext h
    cases m; cases trail; rfl
  | cons u newer ih =>
    have popped := Stack.pop?_of_items_cons h
    simp only [List.length_cons, undoLatest, popped, undo_eq]
    rw [ih _ rfl]
    rfl

theorem dropUnusedTrail_eq (m : Machine) :
    m.dropUnusedTrail = { m with trail := .ofList (Restores.kept m.trail.items m.savePoints.items) } := by
  unfold dropUnusedTrail Restores.kept Stack.isEmpty
  split
  · rfl
  · simp

end Machine

/-! ### Machines that cannot be told apart -/

/-- Nothing that can be seen of the two machines differs. -/
structure Agrees (m : Machine) (r : SnapshotMachine) : Prop where
  config : m.config = r.config
  savePoints : m.savePoints.items.map (fun sp => (sp.resume, sp.position)) =
    r.savePoints.map (fun sn => (sn.resume, sn.position))
  status : m.status = r.status
  cycles : m.cycles = r.cycles
  abortReason : m.abortReason = r.abortReason
  exceeded : m.exceeded = r.exceeded
  log : m.log = r.log

/-- They agree, and the trail brings back what the copies hold. -/
structure Tracks (m : Machine) (r : SnapshotMachine) : Prop extends Agrees m r where
  restores : Restores m.config.mutable m.trail.items m.savePoints.items r.savePoints

namespace Restores

variable {k : Mutable} {trail : List Undo} {saved : List SavePoint} {copies : List Snapshot}

theorem points (h : Restores k trail saved copies) :
    saved.map (fun sp => (sp.resume, sp.position)) =
      copies.map (fun sn => (sn.resume, sn.position)) := by
  induction h with
  | none => rfl
  | some resume position _ _ _ _ ih => simp [resume, position, ih]

/-- The save points through one that resumes at `target` are dropped on both sides, or there is none
on either side. -/
theorem dropThrough (h : Restores k trail saved copies) (target : Address) (depth : Nat)
    (eq : depth = saved.length) :
    (Machine.clearThrough.go target saved depth eq = .none ∧
      Snapshot.dropThrough target copies = .none) ∨
    ∃ left copies', Machine.clearThrough.go target saved depth eq = .some left ∧
      Snapshot.dropThrough target copies = .some copies' ∧
      Restores k (kept trail left.items) left.items copies' := by
  induction saved generalizing copies depth with
  | nil =>
    obtain ⟨-, rfl⟩ := h.trail_nil
    exact .inl ⟨rfl, rfl⟩
  | cons sp saved ih =>
    cases copies with
    | nil => cases h.length_eq
    | cons sn copies =>
      have resume : sp.resume = sn.resume := by cases h; assumption
      by_cases same : sp.resume = target
      · refine .inr ⟨_, copies, if_pos same, if_pos (resume ▸ same), ?_⟩
        exact h.drop_kept
      · have left : Machine.clearThrough.go target (sp :: saved) depth eq =
            Machine.clearThrough.go target saved (depth - 1) (by simp [eq]) := if_neg same
        have right : Snapshot.dropThrough target (sn :: copies) =
            Snapshot.dropThrough target copies := if_neg (resume ▸ same)
        rw [left, right]
        cases saved with
        | nil =>
          have : copies = [] := by simpa using h.length_eq.symm
          exact .inl ⟨rfl, by rw [this]; rfl⟩
        | cons sp' saved => exact ih (h.drop (by simp)) _ _

end Restores

namespace Tracks

variable {E : Type} {s : Search E} {m : Machine} {r : SnapshotMachine}

theorem depth_eq (h : Tracks m r) : m.savePoints.depth = r.savePoints.length := by
  rw [m.savePoints.depth_eq, h.restores.length_eq]

/-- Machines with related save points that agree in everything else. -/
theorem of_fields (config : m.config = r.config)
    (restores : Restores m.config.mutable m.trail.items m.savePoints.items r.savePoints)
    (status : m.status = r.status) (cycles : m.cycles = r.cycles)
    (abortReason : m.abortReason = r.abortReason) (exceeded : m.exceeded = r.exceeded)
    (log : m.log = r.log) : Tracks m r :=
  ⟨⟨config, restores.points, status, cycles, abortReason, exceeded, log⟩, restores⟩

theorem write (h : Tracks m r) (level : Level) (text : String) :
    Tracks (m.write level text) (r.write level text) :=
  of_fields h.config h.restores h.status h.cycles h.abortReason h.exceeded
    (congrArg (fun log => log.push ⟨level, text⟩) h.log)

theorem trace (h : Tracks m r) (text : String) :
    Tracks (s.trace m text) (s.copyingTrace r text) := by
  unfold Search.trace Search.copyingTrace
  split
  · exact h.write _ _
  · exact h

theorem halt (h : Tracks m r) (e : MatchError) : Tracks (s.halt m e) (s.copyingHalt r e) := by
  have h := h.trace (s := s) ("halted: " ++ e.message)
  exact of_fields h.config h.restores rfl h.cycles h.abortReason rfl h.log

theorem go (h : Tracks m r) (pc : Address) (position : Nat) :
    Tracks { m with pc, position } { r with config := { r.config with pc, position } } := by
  refine of_fields ?_ h.restores h.status h.cycles h.abortReason h.exceeded h.log
  rw [← h.config]; rfl

theorem advance (h : Tracks m r) : Tracks m.advance r.advance := by
  refine of_fields ?_ h.restores h.status h.cycles h.abortReason h.exceeded h.log
  rw [SnapshotMachine.advance, ← h.config]; rfl

theorem change (h : Tracks m r) {c : Configuration} {u : Undo}
    (back : u.revert c.mutable = r.config.mutable) :
    Tracks (({ m with
      pc := c.pc, position := c.position, registers := c.registers,
      callStack := c.callStack } : Machine).note u) { r with config := c } := by
  have restores := h.restores
  rw [h.config] at restores
  unfold Machine.note
  cases saved : m.savePoints.items with
  | nil =>
    rw [saved] at restores
    obtain ⟨trail, copies⟩ := restores.trail_nil
    have empty : m.savePoints.isEmpty = true := by simp [Stack.isEmpty, saved]
    rw [if_pos empty]
    refine of_fields rfl ?_ h.status h.cycles h.abortReason h.exceeded h.log
    rw [saved, trail, copies]; exact .none
  | cons sp rest =>
    have nonempty : ¬m.savePoints.isEmpty = true := by simp [Stack.isEmpty, saved]
    rw [if_neg nonempty]
    refine of_fields rfl ?_ h.status h.cycles h.abortReason h.exceeded h.log
    rw [saved] at restores ⊢
    exact restores.note back

theorem pushSavePoint (h : Tracks m r) (resume : Address) (position : Option Nat) :
    Tracks (s.pushSavePoint m resume position) (s.pushCopy r resume position) := by
  unfold Search.pushSavePoint Search.pushCopy
  rw [h.depth_eq]
  split
  · refine of_fields ?_ ?_ h.status h.cycles h.abortReason h.exceeded h.log
    · simp only [Machine.config, Configuration.advance, ← h.config]
    · have copy : r.copy resume position = ⟨resume, position, m.registers, m.callStack⟩ := by
        rw [SnapshotMachine.copy, ← h.config]; rfl
      have restores := h.restores.save resume position
      rw [← m.trail.depth_eq] at restores
      rw [copy]
      exact restores
  · exact h.halt _

/-- What is left after save points are dropped. -/
theorem dropped {savePoints : Stack SavePoint} {copies : List Snapshot} (h : Tracks m r)
    (restores : Restores m.config.mutable (Restores.kept m.trail.items savePoints.items)
      savePoints.items copies) :
    Tracks ({ m with savePoints } : Machine).dropUnusedTrail.advance
      ({ r with savePoints := copies } : SnapshotMachine).advance := by
  apply advance
  rw [Machine.dropUnusedTrail_eq]
  exact of_fields h.config restores h.status h.cycles h.abortReason h.exceeded h.log

/-- Resuming never finds a call stack of another depth, and puts back what the copy holds. -/
theorem backtrack (h : Tracks m r) : ∃ m', m.backtrack = .next m' ∧ Tracks m' r.backtrack := by
  have restores := h.restores
  unfold Machine.backtrack
  cases saved : m.savePoints.items with
  | nil =>
    rw [saved] at restores
    obtain ⟨-, copies⟩ := restores.trail_nil
    refine ⟨{ m with status := .failed }, by rw [Stack.pop?_of_items_nil saved], ?_⟩
    rw [SnapshotMachine.backtrack_nil copies]
    exact of_fields h.config h.restores rfl h.cycles h.abortReason h.exceeded h.log
  | cons sp rest =>
    rw [saved] at restores
    generalize trail : m.trail.items = entries at restores
    generalize copied : r.savePoints = all at restores
    cases restores with
    | @some _ newer older _ sn _ copies resume position depth trailEnd reverted below =>
      have unwound : ({ m with savePoints := .ofList rest } : Machine).unwind sp.trailEnd =
          { m with
            savePoints := .ofList rest
            trail := .ofList older
            registers := sn.registers
            callStack := sn.callStack } := by
        have count : m.trail.depth - sp.trailEnd = newer.length := by
          rw [m.trail.depth_eq, trail, trailEnd, List.length_append]; omega
        have kept : revertAll newer
            ({ m with savePoints := .ofList rest } : Machine).config.mutable = sn.mutable := reverted
        unfold Machine.unwind
        rw [count, Machine.undoLatest_eq newer older { m with savePoints := .ofList rest } trail,
          kept]
        rfl
      have older_kept : Restores.kept older rest = older := by
        unfold Restores.kept
        cases rest with
        | nil => simp [below.trail_nil]
        | cons _ _ => rfl
      refine ⟨({ m with
        pc := sp.resume
        position := sp.position.getD m.position
        savePoints := .ofList rest
        trail := .ofList older
        registers := sn.registers
        callStack := sn.callStack } : Machine).dropUnusedTrail, ?_, ?_⟩
      · rw [Stack.pop?_of_items_cons saved]
        simp only [unwound]
        exact if_pos depth.symm
      · rw [Machine.dropUnusedTrail_eq, SnapshotMachine.backtrack_cons copied]
        refine of_fields ?_ ?_ h.status h.cycles h.abortReason h.exceeded h.log
        · simp [Machine.config, Snapshot.config, resume, position, ← h.config]
        · simp only [Stack.items_ofList, older_kept]
          exact below

end Tracks

/-! ### Cycles and runs -/

/-- Both steps go on with machines that track each other, or both end in the same fault. -/
def Step.Agrees : Step → SnapshotMachine.Step → Prop
  | .next m, .next r => Tracks m r
  | .fault f m, .fault f' r => f = f' ∧ PatternMachine.Agrees m r
  | _, _ => False

theorem Step.Agrees.next {x : Step} {r : SnapshotMachine} (h : x.Agrees (.next r)) :
    ∃ m, x = .next m ∧ Tracks m r := by
  cases x with
  | next m => exact ⟨m, rfl, h⟩
  | fault f m => exact h.elim

theorem Step.Agrees.fault {x : Step} {f : Fault} {r : SnapshotMachine} (h : x.Agrees (.fault f r)) :
    ∃ m, x = .fault f m := by
  cases x with
  | next m => exact h.elim
  | fault f' m => exact ⟨m, congrArg (Step.fault · m) h.1⟩

namespace Tracks

variable {E : Type} {s : Search E} {m : Machine} {r : SnapshotMachine}

theorem obey (h : Tracks m r) (e : Effect)
    (back : ∀ c u, e = .change c u → u.revert c.mutable = r.config.mutable) :
    (s.obey m e).Agrees (s.copyingObey r e) := by
  cases e with
  | fault f => exact ⟨rfl, h.toAgrees⟩
  | go pc position => exact h.go pc position
  | say level text => exact (h.write level text).advance
  | change c u => exact h.change (back c u rfl)
  | save resume position => exact h.pushSavePoint resume position
  | accept => exact of_fields h.config h.restores rfl h.cycles h.abortReason h.exceeded h.log
  | abort reason =>
    have aborted : Tracks { m with abortReason := reason, status := .failed }
        { r with abortReason := reason, status := .failed } :=
      of_fields h.config h.restores rfl h.cycles rfl h.exceeded h.log
    exact aborted.trace _
  | backtrack =>
    obtain ⟨m', resumed, tracks⟩ := h.backtrack
    simp only [Search.obey, Search.copyingObey, resumed]
    exact tracks
  | drop =>
    have restores := h.restores
    cases saved : m.savePoints.items with
    | nil =>
      rw [saved] at restores
      simp only [Search.obey, Search.copyingObey, Stack.pop?_of_items_nil saved,
        restores.trail_nil.2]
      exact ⟨rfl, h.toAgrees⟩
    | cons sp rest =>
      rw [saved] at restores
      cases copied : r.savePoints with
      | nil => rw [copied] at restores; cases restores.length_eq
      | cons sn copies =>
        rw [copied] at restores
        simp only [Search.obey, Search.copyingObey, Stack.pop?_of_items_cons saved, copied]
        exact h.dropped restores.drop_kept
  | dropThrough target =>
    rcases h.restores.dropThrough target m.savePoints.depth m.savePoints.depth_eq with
      ⟨left, right⟩ | ⟨savePoints, copies, left, right, restores⟩
    · have left : Machine.clearThrough target m.savePoints = none := left
      simp only [Search.obey, Search.copyingObey, left, right]
      exact ⟨rfl, h.config, rfl, h.status, h.cycles, h.abortReason, h.exceeded, h.log⟩
    · have left : Machine.clearThrough target m.savePoints = some savePoints := left
      simp only [Search.obey, Search.copyingObey, left, right]
      exact h.dropped restores

theorem announce (h : Tracks m r) (i : Instruction) :
    (∃ f, s.announce m i = .error f ∧ s.copyingAnnounce r i = .error f ∧ f.OfWord) ∨
    ∃ m' r', s.announce m i = .ok m' ∧ s.copyingAnnounce r i = .ok r' ∧ Tracks m' r' := by
  unfold Search.announce Search.copyingAnnounce
  have same : Search.announcement i m.pc.index m.position m.savePoints.depth m.callStack.depth =
      Search.announcement i r.config.pc.index r.config.position r.savePoints.length
        r.config.callStack.depth := by
    rw [h.depth_eq, ← h.config]; rfl
  rw [same]
  split
  · cases announced : Search.announcement i r.config.pc.index r.config.position
        r.savePoints.length r.config.callStack.depth with
    | error f =>
      refine .inl ⟨f, rfl, rfl, ?_⟩
      rcases bind_eq_error.mp announced with failed | ⟨text, -, failed⟩
      · exact Instruction.text_error failed
      · cases failed
    | ok text => exact .inr ⟨_, _, rfl, rfl, h.write _ _⟩
  · exact .inr ⟨m, r, rfl, rfl, h⟩

/-- The assertion on the length of the trail holds in every machine that tracks another one. -/
theorem trailEnd_le (h : Tracks m r) {sp : SavePoint} (top : m.savePoints.top? = some sp) :
    sp.trailEnd ≤ m.trail.depth := by
  have restores := h.restores
  unfold Stack.top? at top
  cases saved : m.savePoints.items with
  | nil => rw [saved] at top; cases top
  | cons sp' rest =>
    rw [saved] at top restores
    cases top
    rw [m.trail.depth_eq]
    generalize m.trail.items = trail at restores
    generalize r.savePoints = copies at restores
    cases restores with
    | some _ _ _ trailEnd _ _ => rw [trailEnd, List.length_append]; omega

theorem check (h : Tracks m r) :
    s.check m =
      if r.status ≠ .inProgress then some .alreadyHalted
      else if r.config.position < s.range.start ∨ s.range.stop < r.config.position then
        some (.positionOutOfRange r.config.position s.range)
      else none := by
  have position : m.position = r.config.position := by rw [← h.config]; rfl
  unfold Search.check
  rw [h.status, position]
  split
  · rfl
  split
  · rfl
  split
  · rfl
  next sp top => rw [if_pos (h.trailEnd_le top)]

/-- One cycle on both sides. -/
theorem cycle [DecidableEq E] (h : Tracks m r) : (s.cycle m).Agrees (s.copyingCycle r) := by
  have pc : m.pc = r.config.pc := by rw [← h.config]; rfl
  unfold Search.cycle Search.cycleWith Search.copyingCycle
  rw [h.check, h.cycles, pc]
  by_cases halted : r.status ≠ .inProgress
  · rw [if_pos halted, if_pos halted]; exact ⟨rfl, h.toAgrees⟩
  by_cases outside : r.config.position < s.range.start ∨ s.range.stop < r.config.position
  · rw [if_neg halted, if_neg halted, if_pos outside, if_pos outside]; exact ⟨rfl, h.toAgrees⟩
  rw [if_neg halted, if_neg halted, if_neg outside, if_neg outside]
  cases s.cyclesUsedUp r.cycles with
  | some e => exact h.halt e
  | none =>
    cases s.program.code[r.config.pc.index]? with
    | none => exact ⟨rfl, h.toAgrees⟩
    | some i =>
      rcases h.announce (s := s) i with ⟨f, left, right, -⟩ | ⟨m', r', left, right, announced⟩
      · simp only [left, right]; exact ⟨rfl, h.toAgrees⟩
      · have counted : Tracks { m' with cycles := m'.cycles + 1 }
            { r' with cycles := r'.cycles + 1 } :=
          of_fields announced.config announced.restores announced.status
            (congrArg (· + 1) announced.cycles) announced.abortReason announced.exceeded
            announced.log
        simp only [left, right]
        cases i.decode with
        | error f => exact ⟨rfl, counted.toAgrees⟩
        | ok op =>
          simp only [Search.perform_eq_obey, counted.config]
          exact counted.obey _ fun c u eff => Search.effect_reverts eff

theorem runFor [DecidableEq E] (h : Tracks m r) (n : Nat) :
    (s.runFor n m).Agrees (s.copyingRunFor n r) := by
  induction n generalizing m r with
  | zero => exact h
  | succ n ih =>
    unfold Search.runFor Search.copyingRunFor
    rw [h.status]
    split
    · have cycle := h.cycle (s := s)
      cases left : s.cycle m <;> cases right : s.copyingCycle r <;> rw [left, right] at cycle
      · exact ih cycle
      · exact cycle.elim
      · exact cycle.elim
      · exact cycle
    · exact h

theorem startWith (s : Search E) (log : Log) :
    Tracks { s.start with log } { s.copyingStart with log } :=
  of_fields rfl .none rfl rfl rfl rfl rfl

theorem start (s : Search E) : Tracks s.start s.copyingStart := startWith s #[]

end Tracks

end PatternMachine

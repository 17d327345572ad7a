import PatternMachine.Proofs.Machine.Cycle
import PatternMachine.Proofs.Machine.Refinement

/-! A run does not read what it writes. Without its records, a machine goes through the same states. -/
namespace PatternMachine

namespace SnapshotMachine

/-- The machine without its records. -/
def silent (r : SnapshotMachine) : SnapshotMachine := { r with log := #[] }

def Step.silent : Step → Step
  | next r => next r.silent
  | fault f r => fault f r.silent

end SnapshotMachine

namespace Search

variable {E : Type} {s : Search E}

theorem copyingTrace_silent (r : SnapshotMachine) (text : String) :
    (s.copyingTrace r text).silent = r.silent := by
  unfold copyingTrace
  split <;> rfl

theorem copyingHalt_silent (r : SnapshotMachine) (e : MatchError) :
    (s.copyingHalt r e).silent = (s.copyingHalt r.silent e).silent := by
  have left := s.copyingTrace_silent r ("halted: " ++ e.message)
  have right := s.copyingTrace_silent r.silent ("halted: " ++ e.message)
  exact congrArg (fun r => { r with exceeded := some e, status := .failed }) (left.trans right.symm)

theorem pushCopy_silent (r : SnapshotMachine) (resume : Address) (position : Option Nat) :
    (s.pushCopy r resume position).silent = (s.pushCopy r.silent resume position).silent := by
  have same : r.silent.savePoints = r.savePoints := rfl
  unfold pushCopy
  rw [same]
  split
  · rfl
  · exact s.copyingHalt_silent r _

theorem backtrack_silent (r : SnapshotMachine) : r.backtrack.silent = r.silent.backtrack := by
  cases saved : r.savePoints with
  | nil => rw [r.backtrack_nil saved, r.silent.backtrack_nil saved]; rfl
  | cons sn rest => rw [r.backtrack_cons saved, r.silent.backtrack_cons saved]; rfl

theorem copyingObey_silent (r : SnapshotMachine) (e : Effect) :
    (s.copyingObey r e).silent = (s.copyingObey r.silent e).silent := by
  cases e with
  | fault f => rfl
  | go pc position => rfl
  | say level text => rfl
  | change c u => rfl
  | save resume position => exact congrArg SnapshotMachine.Step.next (s.pushCopy_silent r _ _)
  | drop =>
    have same : r.silent.savePoints = r.savePoints := rfl
    simp only [copyingObey, same]
    split <;> rfl
  | dropThrough target =>
    have same : r.silent.savePoints = r.savePoints := rfl
    simp only [copyingObey, same]
    split <;> rfl
  | backtrack =>
    have once := backtrack_silent r
    have twice := backtrack_silent r.silent
    exact congrArg SnapshotMachine.Step.next (once.trans twice.symm)
  | accept => rfl
  | abort reason =>
    refine congrArg SnapshotMachine.Step.next ?_
    rw [copyingTrace_silent, copyingTrace_silent]
    rfl

theorem copyingAnnounce_silent (r : SnapshotMachine) (i : Instruction) :
    (∃ f, s.copyingAnnounce r i = .error f ∧ s.copyingAnnounce r.silent i = .error f) ∨
    ∃ r' r'', s.copyingAnnounce r i = .ok r' ∧ s.copyingAnnounce r.silent i = .ok r'' ∧
      r'.silent = r''.silent := by
  have config : r.silent.config = r.config := rfl
  have saved : r.silent.savePoints = r.savePoints := rfl
  unfold copyingAnnounce
  rw [config, saved]
  split
  · cases announcement i r.config.pc.index r.config.position r.savePoints.length
      r.config.callStack.depth with
    | error f => exact .inl ⟨f, rfl, rfl⟩
    | ok text => exact .inr ⟨_, _, rfl, rfl, rfl⟩
  · exact .inr ⟨r, r.silent, rfl, rfl, rfl⟩

variable [DecidableEq E]

/-- The effect of an operation does not depend on the records. -/
theorem effect_silent {r r' : SnapshotMachine} (same : r.silent = r'.silent) (op : Operation) :
    (s.copyingObey r (s.effect r.config op)).silent =
      (s.copyingObey r' (s.effect r'.config op)).silent := by
  have config : r.config = r'.config := congrArg (·.config) same
  rw [copyingObey_silent, same, ← copyingObey_silent, config]

theorem copyingCycle_silent (r : SnapshotMachine) :
    (s.copyingCycle r).silent = (s.copyingCycle r.silent).silent := by
  have status : r.silent.status = r.status := rfl
  have config : r.silent.config = r.config := rfl
  have cycles : r.silent.cycles = r.cycles := rfl
  unfold copyingCycle
  rw [status, config, cycles]
  split
  · rfl
  split
  · rfl
  cases s.cyclesUsedUp r.cycles with
  | some e => exact congrArg SnapshotMachine.Step.next (copyingHalt_silent r e)
  | none =>
    cases s.program.code[r.config.pc.index]? with
    | none => rfl
    | some i =>
      rcases s.copyingAnnounce_silent r i with
        ⟨f, left, right⟩ | ⟨r', r'', left, right, same⟩
      · simp only [left, right]
        rfl
      · have counted : { r' with cycles := r'.cycles + 1 }.silent =
            { r'' with cycles := r''.cycles + 1 }.silent :=
          congrArg (fun r => { r with cycles := r.cycles + 1 }) same
        simp only [left, right]
        cases i.decode with
        | error f => exact congrArg (SnapshotMachine.Step.fault f) counted
        | ok op => exact effect_silent counted op

/-- Machines that differ in their records only run in the same way. -/
theorem copyingRunFor_silent {r r' : SnapshotMachine} (same : r.silent = r'.silent) (n : Nat) :
    (s.copyingRunFor n r).silent = (s.copyingRunFor n r').silent := by
  induction n generalizing r r' with
  | zero => exact congrArg SnapshotMachine.Step.next same
  | succ n ih =>
    have status : r.status = r'.status := congrArg (·.status) same
    have cycle : (s.copyingCycle r).silent = (s.copyingCycle r').silent := by
      rw [copyingCycle_silent, same, ← copyingCycle_silent]
    unfold copyingRunFor
    rw [status]
    split
    · cases left : s.copyingCycle r <;> cases right : s.copyingCycle r' <;> rw [left, right] at cycle
      · exact ih (SnapshotMachine.Step.next.inj cycle)
      · cases cycle
      · cases cycle
      · exact cycle
    · exact congrArg SnapshotMachine.Step.next same

end Search

/-! ### What is left of a run -/

/-- Where a step leads, and whether it halts there. -/
def Step.ending : Step → Except Fault (Configuration × Status × Option MatchError)
  | .next m => .ok (m.config, m.status, m.exceeded)
  | .fault f _ => .error f

/-- Machines differ in records only that go along with copies which do. -/
theorem Tracks.alike {m m' : Machine} {r r' : SnapshotMachine} (tracks : Tracks m r)
    (tracks' : Tracks m' r') (same : r.silent = r'.silent) :
    m.config = m'.config ∧ m.status = m'.status ∧ m.cycles = m'.cycles ∧ m.exceeded = m'.exceeded := by
  have config : r.config = r'.config := congrArg (·.config) same
  have status : r.status = r'.status := congrArg (·.status) same
  have cycles : r.cycles = r'.cycles := congrArg (·.cycles) same
  have exceeded : r.exceeded = r'.exceeded := congrArg (·.exceeded) same
  exact ⟨tracks.config.trans (config.trans tracks'.config.symm),
    tracks.status.trans (status.trans tracks'.status.symm),
    tracks.cycles.trans (cycles.trans tracks'.cycles.symm),
    tracks.exceeded.trans (exceeded.trans tracks'.exceeded.symm)⟩

namespace Search

variable {E : Type}

/-- Whatever was written before, a search goes the same way. -/
theorem runFor_alike [DecidableEq E] (s : Search E) (n : Nat) (log log' : Log) :
    (∃ f m m', s.runFor n { s.start with log } = .fault f m ∧
      s.runFor n { s.start with log := log' } = .fault f m') ∨
    ∃ m m' r r', s.runFor n { s.start with log } = .next m ∧
      s.runFor n { s.start with log := log' } = .next m' ∧
      Tracks m r ∧ Tracks m' r' ∧ r.silent = r'.silent := by
  have before : { s.copyingStart with log }.silent = { s.copyingStart with log := log' }.silent :=
    rfl
  have same := s.copyingRunFor_silent before n
  have agrees := (Tracks.startWith s log).runFor (s := s) n
  have agrees' := (Tracks.startWith s log').runFor (s := s) n
  cases copied : s.copyingRunFor n { s.copyingStart with log } <;>
    cases copied' : s.copyingRunFor n { s.copyingStart with log := log' } <;>
    rw [copied] at agrees same <;> rw [copied'] at agrees' same
  next r r' =>
    obtain ⟨m, ran, tracks⟩ := agrees.next
    obtain ⟨m', ran', tracks'⟩ := agrees'.next
    exact .inr ⟨m, m', r, r', ran, ran', tracks, tracks', SnapshotMachine.Step.next.inj same⟩
  · cases same
  · cases same
  next f r f' r' =>
    obtain rfl : f = f' := (SnapshotMachine.Step.fault.inj same).1
    obtain ⟨m, ran⟩ := agrees.fault
    obtain ⟨m', ran'⟩ := agrees'.fault
    exact .inl ⟨f, m, m', ran, ran'⟩

/-- Whether an instruction can be announced does not depend on the machine. -/
theorem announce_unit (s : Search E) (m m' : Machine) (i : Instruction) :
    (s.announce m i).map (fun _ => ()) = (s.announce m' i).map (fun _ => ()) := by
  unfold announce announcement
  split
  · cases i.text <;> simp only [Except.map, bind, Except.bind, pure, Except.pure]
  · rfl

theorem lastCycle_ending (s : Search E) {m m' : Machine} {r r' : SnapshotMachine}
    (tracks : Tracks m r) (tracks' : Tracks m' r') (same : r.silent = r'.silent) :
    (s.lastCycle m).ending = (s.lastCycle m').ending := by
  obtain ⟨config, -, cycles, -⟩ := tracks.alike tracks' same
  have pc : m.pc = m'.pc := congrArg (·.pc) config
  have check : s.check m = s.check m' := by
    have status : r.status = r'.status := congrArg (·.status) same
    have there : r.config = r'.config := congrArg (·.config) same
    rw [tracks.check, tracks'.check, status, there]
  unfold lastCycle cycleWith
  rw [check, cycles, pc]
  cases s.check m' with
  | some f => rfl
  | none =>
    cases s.cyclesUsedUp m'.cycles with
    | some e =>
      obtain ⟨log, halted⟩ := s.halt_eq m e
      obtain ⟨log', halted'⟩ := s.halt_eq m' e
      simp only [halted, halted']
      exact congrArg (fun c => Except.ok (c, Status.failed, some e)) config
    | none =>
      cases s.program.code[m'.pc.index]? with
      | none => rfl
      | some i =>
        have announced := s.announce_unit m m' i
        cases left : s.announce m i <;> cases right : s.announce m' i <;>
          rw [left, right] at announced <;> cases announced <;> simp only [left, right] <;> rfl

theorem run_ending [DecidableEq E] (s : Search E) (log log' : Log) :
    (s.run { s.start with log }).ending = (s.run { s.start with log := log' }).ending := by
  rcases s.runFor_alike countableCycles log log' with
    ⟨f, m, m', ran, ran'⟩ | ⟨m, m', r, r', ran, ran', tracks, tracks', same⟩
  · rw [run, run, ran, ran']
    rfl
  · obtain ⟨config, status, -, exceeded⟩ := tracks.alike tracks' same
    rw [run, run, ran, ran']
    simp only [status]
    split
    · exact s.lastCycle_ending tracks tracks' same
    · simp only [Step.ending, config, status, exceeded]

end Search

end PatternMachine

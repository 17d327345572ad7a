import PatternMachine.Proofs.Machine.Effect

/-! The machine without a trail. Each save point holds a full copy of the registers and of the call
stack, and resuming puts the copy back. Everything else is as in the machine with the trail. -/
namespace PatternMachine

structure Snapshot where
  resume : Address
  /-- The position to return to; `none` leaves it where it is. -/
  position : Option Nat
  registers : Registers
  callStack : Stack Address

/-- The configuration that resuming leads to from a position. -/
def Snapshot.config (sn : Snapshot) (position : Nat) : Configuration :=
  ⟨sn.resume, sn.position.getD position, sn.registers, sn.callStack⟩

/-- The copies below the latest one that resumes at `target`. -/
def Snapshot.dropThrough (target : Address) : List Snapshot → Option (List Snapshot)
  | [] => none
  | sn :: rest => if sn.resume = target then some rest else dropThrough target rest

theorem Snapshot.dropThrough_suffix {target : Address} {copies rest : List Snapshot}
    (h : dropThrough target copies = some rest) : rest <:+ copies := by
  induction copies with
  | nil => cases h
  | cons sn copies ih =>
    by_cases same : sn.resume = target
    · rw [dropThrough, if_pos same] at h
      cases h
      exact List.suffix_cons _ _
    · rw [dropThrough, if_neg same] at h
      exact (ih h).trans (List.suffix_cons _ _)

structure SnapshotMachine where
  config : Configuration
  savePoints : List Snapshot
  status : Status
  cycles : Nat
  abortReason : Option String
  exceeded : Option MatchError
  log : Log

namespace SnapshotMachine

inductive Step where
  | next (r : SnapshotMachine)
  | fault (f : Fault) (r : SnapshotMachine)

def captures (r : SnapshotMachine) : List (Option Span) :=
  r.config.registers.captures.toList.map (·.value)

def write (r : SnapshotMachine) (level : Level) (text : String) : SnapshotMachine :=
  { r with log := r.log.push ⟨level, text⟩ }

def advance (r : SnapshotMachine) : SnapshotMachine := { r with config := r.config.advance }

/-- A copy of what there is now. -/
def copy (r : SnapshotMachine) (resume : Address) (position : Option Nat) : Snapshot :=
  ⟨resume, position, r.config.registers, r.config.callStack⟩

/-- Puts back the latest copy, or fails if there is none. -/
def backtrack (r : SnapshotMachine) : SnapshotMachine :=
  match r.savePoints with
  | [] => { r with status := .failed }
  | sn :: rest => { r with config := sn.config r.config.position, savePoints := rest }

theorem backtrack_nil {r : SnapshotMachine} (h : r.savePoints = []) :
    r.backtrack = { r with status := .failed } := by
  simp only [backtrack, h]

theorem backtrack_cons {r : SnapshotMachine} {sn : Snapshot} {rest : List Snapshot}
    (h : r.savePoints = sn :: rest) :
    r.backtrack = { r with config := sn.config r.config.position, savePoints := rest } := by
  simp only [backtrack, h]

end SnapshotMachine

namespace Search

variable {E : Type}

def copyingStart (s : Search E) : SnapshotMachine :=
  { config := s.start.config
    savePoints := []
    status := .inProgress
    cycles := 0
    abortReason := none
    exceeded := none
    log := #[] }

def copyingTrace (s : Search E) (r : SnapshotMachine) (text : String) : SnapshotMachine :=
  if s.settings.tracing then r.write .trace text else r

def copyingHalt (s : Search E) (r : SnapshotMachine) (e : MatchError) : SnapshotMachine :=
  { s.copyingTrace r ("halted: " ++ e.message) with exceeded := some e, status := .failed }

def pushCopy (s : Search E) (r : SnapshotMachine) (resume : Address) (position : Option Nat) :
    SnapshotMachine :=
  if r.savePoints.length < s.settings.maxSavePoints then
    { r with savePoints := r.copy resume position :: r.savePoints, config := r.config.advance }
  else s.copyingHalt r (.backtrackLimitExceeded s.settings.maxSavePoints)

/-- How the machine with copies obeys. The entries that take changes back are not needed. -/
def copyingObey (s : Search E) (r : SnapshotMachine) : Effect → SnapshotMachine.Step
  | .fault f => .fault f r
  | .go pc position => .next { r with config := { r.config with pc, position } }
  | .say level text => .next (r.write level text).advance
  | .change c _ => .next { r with config := c }
  | .save resume position => .next (s.pushCopy r resume position)
  | .drop =>
    match r.savePoints with
    | [] => .fault .noSavePoint r
    | _ :: savePoints => .next { r with savePoints }.advance
  | .dropThrough target =>
    match Snapshot.dropThrough target r.savePoints with
    | none => .fault (.noSavePointAt target) { r with savePoints := [] }
    | some savePoints => .next { r with savePoints }.advance
  | .backtrack => .next r.backtrack
  | .accept => .next { r with status := .accepted }
  | .abort reason =>
    .next (s.copyingTrace { r with abortReason := reason, status := .failed }
      ("aborted: " ++ reason.getD ""))

def copyingAnnounce (s : Search E) (r : SnapshotMachine) (i : Instruction) :
    Except Fault SnapshotMachine :=
  if s.settings.tracing then do
    return r.write .trace
      (← announcement i r.config.pc.index r.config.position r.savePoints.length
        r.config.callStack.depth)
  else .ok r

/-- Executes one instruction. There is no trail whose length could be wrong. -/
def copyingCycle [DecidableEq E] (s : Search E) (r : SnapshotMachine) : SnapshotMachine.Step :=
  if r.status ≠ .inProgress then .fault .alreadyHalted r
  else if r.config.position < s.range.start ∨ s.range.stop < r.config.position then
    .fault (.positionOutOfRange r.config.position s.range) r
  else
    match s.cyclesUsedUp r.cycles with
    | some e => .next (s.copyingHalt r e)
    | none =>
      match s.program.code[r.config.pc.index]? with
      | none => .fault (.pastEnd r.config.pc) r
      | some i =>
        match s.copyingAnnounce r i with
        | .error f => .fault f r
        | .ok r =>
          let r := { r with cycles := r.cycles + 1 }
          match i.decode with
          | .error f => .fault f r
          | .ok operation => s.copyingObey r (s.effect r.config operation)

/-- At most `n` cycles, fewer if the machine halts. -/
def copyingRunFor [DecidableEq E] (s : Search E) : Nat → SnapshotMachine → SnapshotMachine.Step
  | 0, r => .next r
  | n + 1, r =>
    if r.status = .inProgress then
      match s.copyingCycle r with
      | .next r => s.copyingRunFor n r
      | .fault f r => .fault f r
    else .next r

end Search

end PatternMachine

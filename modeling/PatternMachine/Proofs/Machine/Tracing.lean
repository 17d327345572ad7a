import PatternMachine.Proofs.Assembler.Registers
import PatternMachine.Proofs.Engine

/-! Tracing is about what is written down. A search that traces and one that does not go through the same
states, and both write down what the same cycles give rise to: the one all of it, the other only what the
program prints. -/
namespace PatternMachine

/-! ### Machines with other records -/

namespace Machine

/-- The machine with other records. -/
def withLog (m : Machine) (log : Log) : Machine := { m with log }

/-- The machine without its records. -/
def silent (m : Machine) : Machine := m.withLog #[]

variable (m : Machine) (log : Log)

theorem note_withLog (u : Undo) : (m.withLog log).note u = (m.note u).withLog log := by
  unfold note
  have saved : (m.withLog log).savePoints = m.savePoints := rfl
  rw [saved]
  split <;> rfl

theorem dropUnusedTrail_withLog :
    (m.withLog log).dropUnusedTrail = m.dropUnusedTrail.withLog log := by
  unfold dropUnusedTrail
  have saved : (m.withLog log).savePoints = m.savePoints := rfl
  rw [saved]
  split <;> rfl

theorem undo_withLog (u : Undo) : (m.withLog log).undo u = (m.undo u).withLog log := by
  cases u <;> rfl

theorem undoLatest_withLog (n : Nat) :
    undoLatest n (m.withLog log) = (undoLatest n m).withLog log := by
  induction n generalizing m with
  | zero => rfl
  | succ n ih =>
    have trail : (m.withLog log).trail = m.trail := rfl
    unfold undoLatest
    rw [trail]
    cases m.trail.pop? with
    | none => rfl
    | some top =>
      obtain ⟨u, trail⟩ := top
      exact (congrArg (undoLatest n) (undo_withLog { m with trail } log u)).trans (ih _)

end Machine

namespace Step

/-- The step with other records. -/
def withLog (x : Step) (log : Log) : Step :=
  match x with
  | next m => next (m.withLog log)
  | fault f m => fault f (m.withLog log)

/-- The step without its records. -/
def silent (x : Step) : Step := x.withLog #[]

@[simp] theorem withLog_withLog (x : Step) (log log' : Log) :
    (x.withLog log).withLog log' = x.withLog log' := by
  cases x <;> rfl

end Step

theorem Machine.backtrack_withLog (m : Machine) (log : Log) :
    (m.withLog log).backtrack = m.backtrack.withLog log := by
  have saved : (m.withLog log).savePoints = m.savePoints := rfl
  unfold Machine.backtrack
  rw [saved]
  cases m.savePoints.pop? with
  | none => rfl
  | some top =>
    obtain ⟨sp, savePoints⟩ := top
    have unwound : ({ m.withLog log with savePoints } : Machine).unwind sp.trailEnd =
        (({ m with savePoints } : Machine).unwind sp.trailEnd).withLog log :=
      undoLatest_withLog { m with savePoints } log _
    simp only [unwound]
    generalize ({ m with savePoints } : Machine).unwind sp.trailEnd = left
    have depth : (left.withLog log).callStack.depth = left.callStack.depth := rfl
    rw [depth]
    split
    · exact congrArg Step.next (dropUnusedTrail_withLog
        { left with pc := sp.resume, position := sp.position.getD left.position } log)
    · rfl

/-! ### What a cycle gives rise to -/

/-- The text of an instruction, which every instruction of an assembled program has. -/
def Instruction.shown (i : Instruction) : String := i.text.toOption.getD ""

/-- What there is to write down. -/
inductive Remark where
  /-- An instruction, with what there was before it was executed. -/
  | executed (i : Instruction) (pc position savePoints callDepth : Nat)
  | comment (text : String)
  | printed (text : String)
  | aborted (reason : Option String)
  | halted (e : MatchError)

namespace Remark

/-- All but what the program prints is for traces. -/
def level : Remark → Level
  | printed _ => .debug
  | _ => .trace

def text : Remark → String
  | executed i pc position savePoints callDepth =>
    "[" ++ toString pc ++ "] pos=" ++ toString position ++ " " ++ i.shown ++
      " (save points: " ++ toString savePoints ++ ", call depth: " ++ toString callDepth ++ ")"
  | comment text | printed text => text
  | aborted reason => "aborted: " ++ reason.getD ""
  | halted e => "halted: " ++ e.message

def record (r : Remark) : LogRecord := ⟨r.level, r.text⟩

/-- What is written down with tracing or without. -/
def written (tracing : Bool) (remarks : List Remark) : Log :=
  ((remarks.filter fun r => tracing || r.level = .debug).map record).toArray

@[simp] theorem written_nil (tracing : Bool) : written tracing [] = #[] := rfl

theorem written_append (tracing : Bool) (rs rs' : List Remark) :
    written tracing (rs ++ rs') = written tracing rs ++ written tracing rs' := by
  simp [written]

theorem written_cons (tracing : Bool) (r : Remark) (rs : List Remark) :
    written tracing (r :: rs) = written tracing [r] ++ written tracing rs :=
  written_append tracing [r] rs

theorem written_true (rs : List Remark) : written true rs = (rs.map record).toArray := by
  have all : (rs.filter fun r => true || r.level = .debug) = rs := List.filter_eq_self.mpr fun _ _ => rfl
  rw [written, all]

theorem written_false (rs : List Remark) :
    written false rs = ((rs.filter (·.level = .debug)).map record).toArray := by
  simp [written]

/-- What is for traces is written down if there is a trace. -/
theorem append_written_trace (log : Log) (tracing : Bool) {r : Remark} (level : r.level = .trace) :
    log ++ written tracing [r] = if tracing then log.push ⟨.trace, r.text⟩ else log := by
  cases tracing <;> simp [written, record, level]

end Remark

namespace Search

variable {E : Type}

/-- What an operation gives rise to apart from being executed. -/
def remarksOf (s : Search E) (m : Machine) : Operation → List Remark
  | .nop (some comment) => s.program.strings[comment.index]?.toList.map .comment
  | .print message => s.program.strings[message.index]?.toList.map .printed
  | .abort reason => (s.string? reason).toOption.toList.map .aborted
  | .save _ | .saveAddress _ =>
    if m.savePoints.depth < s.settings.maxSavePoints then []
    else [.halted (.backtrackLimitExceeded s.settings.maxSavePoints)]
  | _ => []

/-- What a cycle gives rise to: that a limit is exceeded, or an instruction and what comes of it. -/
def remarksAt (s : Search E) (m : Machine) : List Remark :=
  match s.check m with
  | some _ => []
  | none =>
    match s.cyclesUsedUp m.cycles with
    | some e => [.halted e]
    | none =>
      match s.program.code[m.pc.index]? with
      | none => []
      | some i =>
        .executed i m.pc.index m.position m.savePoints.depth m.callStack.depth ::
          match i.decode with
          | .ok op => s.remarksOf m op
          | .error _ => []

/-- What comes next where a step has led. -/
def remarksAfter (s : Search E) : Step → List Remark
  | .next m => s.remarksAt m
  | .fault _ _ => []

/-- What the first `n` cycles of a search give rise to, one after the other. -/
def remarks [DecidableEq E] (s : Search E) (n : Nat) : List Remark :=
  (List.range n).flatMap fun k => s.remarksAfter (s.runFor k s.start)

/-- All that a search gives rise to. When the counter of cycles is full, what comes next is still announced,
but cannot be counted. -/
def allRemarks [DecidableEq E] (s : Search E) : List Remark :=
  s.remarks countableCycles ++ (s.remarksAfter (s.runFor countableCycles s.start)).take 1

/-- The search with tracing or without. -/
def withTracing (s : Search E) (tracing : Bool) : Search E :=
  { s with settings := { s.settings with tracing } }

/-! ### Obeying -/

variable {s : Search E}

theorem halt_withTracing (tracing : Bool) (m : Machine) (log : Log) (e : MatchError) :
    (s.withTracing tracing).halt (m.withLog log) e =
      ((s.withTracing false).halt m e).withLog (log ++ Remark.written tracing [.halted e]) := by
  rw [Remark.append_written_trace _ _ rfl]
  cases tracing <;> rfl

theorem pushSavePoint_withTracing (tracing : Bool) (m : Machine) (log : Log) (resume : Address)
    (position : Option Nat) :
    (s.withTracing tracing).pushSavePoint (m.withLog log) resume position =
      ((s.withTracing false).pushSavePoint m resume position).withLog
        (log ++ Remark.written tracing (s.remarksOf m (.save resume))) := by
  have saved : (m.withLog log).savePoints = m.savePoints := rfl
  have most : (s.withTracing tracing).settings.maxSavePoints = s.settings.maxSavePoints := rfl
  have most' : (s.withTracing false).settings.maxSavePoints = s.settings.maxSavePoints := rfl
  unfold pushSavePoint
  rw [saved, most, most', remarksOf]
  split
  · simp only [Remark.written_nil, Array.append_empty]
    rfl
  · exact halt_withTracing tracing m log _

end Search

/-- These effects write nothing down. -/
def Effect.Quiet : Effect → Prop
  | .say _ _ | .save _ _ | .abort _ => False
  | _ => True

/-- These operations write nothing down. -/
def Operation.Quiet : Operation → Prop
  | .nop _ | .print _ | .abort _ | .save _ | .saveAddress _ => False
  | _ => True

namespace Search

variable {E : Type} {s : Search E} {m : Machine} {op : Operation} {log : Log} {tracing : Bool}

theorem obey_quiet {e : Effect} (quiet : e.Quiet) :
    (s.withTracing tracing).obey (m.withLog log) e =
      ((s.withTracing false).obey m e).withLog log := by
  have saved : (m.withLog log).savePoints = m.savePoints := rfl
  cases e with
  | fault f => rfl
  | go pc position => rfl
  | change c u =>
    exact congrArg Step.next (Machine.note_withLog
      { m with
        pc := c.pc
        position := c.position
        registers := c.registers
        callStack := c.callStack } log u)
  | drop =>
    simp only [obey, saved]
    cases m.savePoints.pop? with
    | none => rfl
    | some top =>
      exact congrArg (fun m : Machine => Step.next m.advance)
        (Machine.dropUnusedTrail_withLog { m with savePoints := top.2 } log)
  | dropThrough target =>
    simp only [obey, saved]
    cases Machine.clearThrough target m.savePoints with
    | none => rfl
    | some savePoints =>
      exact congrArg (fun m : Machine => Step.next m.advance)
        (Machine.dropUnusedTrail_withLog { m with savePoints } log)
  | backtrack => exact m.backtrack_withLog log
  | accept => rfl
  | say level text => exact quiet.elim
  | save resume position => exact quiet.elim
  | abort reason => exact quiet.elim

theorem shown_of_decodable (decodable : s.program.Decodable) {i : Instruction} {k : Nat}
    (known : s.program.code[k]? = some i) : i.text = .ok i.shown := by
  obtain ⟨op, decoded, -⟩ := decodable.code k i known
  obtain ⟨text, shown⟩ := Instruction.text_of_decode decoded
  rw [Instruction.shown, shown]
  rfl

/-- A trace of an instruction writes down that it is executed. -/
theorem announce_withTracing {i : Instruction} (shown : i.text = .ok i.shown) :
    (s.withTracing tracing).announce (m.withLog log) i =
      .ok (m.withLog (log ++ Remark.written tracing
        [.executed i m.pc.index m.position m.savePoints.depth m.callStack.depth])) := by
  rw [Remark.append_written_trace _ _ rfl]
  cases tracing
  · rfl
  · simp only [announce, announcement, shown, ok_bind, pure_eq_ok]
    rfl

theorem remarksOf_quiet (quiet : op.Quiet) : s.remarksOf m op = [] := by
  cases op with
  | nop comment => exact quiet.elim
  | print message => exact quiet.elim
  | abort reason => exact quiet.elim
  | save target => exact quiet.elim
  | saveAddress target => exact quiet.elim
  | _ => rfl

theorem remarksAt_halted (s : Search E) (halted : m.status ≠ .inProgress) : s.remarksAt m = [] := by
  have checked : s.check m = some .alreadyHalted := if_pos halted
  rw [remarksAt, checked]

/-- A cycle ends before an instruction is executed, with one remark at most, or comes to an instruction that
it has remarked on. -/
theorem cycleWith_withTracing (decodable : s.program.Decodable) (m : Machine) :
    ((s.remarksAt m).length ≤ 1 ∧ ∃ x : Step,
      (∀ execute, (s.withTracing false).cycleWith execute m = x) ∧
      ∀ tracing execute log, (s.withTracing tracing).cycleWith execute (m.withLog log) =
        x.withLog (log ++ Remark.written tracing (s.remarksAt m))) ∨
    ∃ i op announced, i.decode = .ok op ∧
      (∀ r, op.string? = some r → ∃ text, s.program.strings[r.index]? = some text) ∧
      s.remarksAt m = announced :: s.remarksOf m op ∧
      (∀ execute, (s.withTracing false).cycleWith execute m = execute i m) ∧
      ∀ tracing execute log, (s.withTracing tracing).cycleWith execute (m.withLog log) =
        execute i (m.withLog (log ++ Remark.written tracing [announced])) := by
  have check (tracing : Bool) (log : Log) : (s.withTracing tracing).check (m.withLog log) = s.check m := rfl
  have check' : (s.withTracing false).check m = s.check m := rfl
  have used (tracing : Bool) (cycles : Nat) :
      (s.withTracing tracing).cyclesUsedUp cycles = s.cyclesUsedUp cycles := rfl
  have cycles (log : Log) : (m.withLog log).cycles = m.cycles := rfl
  have pc (log : Log) : (m.withLog log).pc = m.pc := rfl
  have program (tracing : Bool) : (s.withTracing tracing).program = s.program := rfl
  have unannounced (i : Instruction) : (s.withTracing false).announce m i = .ok m := rfl
  simp only [cycleWith, remarksAt, check, check', used, cycles, pc, program, unannounced]
  cases s.check m with
  | some f =>
    exact .inl ⟨Nat.zero_le 1, .fault f m, fun _ => rfl, fun tracing _ log => by simp [Step.withLog]⟩
  | none =>
    cases s.cyclesUsedUp m.cycles with
    | some e =>
      exact .inl ⟨Nat.le_refl 1, .next ((s.withTracing false).halt m e), fun _ => rfl,
        fun tracing _ log => congrArg Step.next (halt_withTracing tracing m log e)⟩
    | none =>
      cases known : s.program.code[m.pc.index]? with
      | none =>
        exact .inl ⟨Nat.zero_le 1, .fault (.pastEnd m.pc) m, fun _ => rfl,
          fun tracing _ log => by simp [Step.withLog]⟩
      | some i =>
        obtain ⟨op, decoded, -, fits⟩ := decodable.code m.pc.index i known
        have there (r : StringRegister) (named : op.string? = some r) :
            ∃ text, s.program.strings[r.index]? = some text := by
          have inside : r.index < s.program.strings.size :=
            decodable.strings ▸ fits _ (Operation.string_mem named)
          exact ⟨_, Array.getElem?_eq_getElem inside⟩
        refine .inr ⟨i, op, .executed i m.pc.index m.position m.savePoints.depth m.callStack.depth,
          decoded, there, by simp only [decoded], fun _ => rfl, fun tracing execute log => ?_⟩
        simp only [announce_withTracing (shown_of_decodable decodable known)]

/-- The last cycle writes down no more than what comes next. -/
theorem lastCycle_withTracing (decodable : s.program.Decodable) :
    (s.withTracing tracing).lastCycle (m.withLog log) =
      ((s.withTracing false).lastCycle m).withLog
        (log ++ Remark.written tracing ((s.remarksAt m).take 1)) := by
  rcases s.cycleWith_withTracing decodable m with
    ⟨few, x, silent, ends⟩ | ⟨i, op, announced, -, -, remarks, silent, comes⟩
  · rw [lastCycle, lastCycle, ends, silent, List.take_of_length_le few]
  · rw [lastCycle, lastCycle, comes, silent, remarks]
    rfl

section

variable [DecidableEq E]

theorem effect_quiet (quiet : op.Quiet) (c : Configuration) : (s.effect c op).Quiet := by
  cases op <;> try exact quiet.elim
  all_goals
    simp only [effect, acceptance, consumption, assignment]
    repeat' split
    all_goals trivial

theorem effect_withTracing (quiet : op.Quiet) (c : Configuration) :
    (s.withTracing tracing).effect c op = (s.withTracing false).effect c op := by
  cases op with
  | nop comment => exact quiet.elim
  | _ => rfl

theorem comment_withTracing {r : StringRegister} {text : String}
    (known : s.program.strings[r.index]? = some text) :
    (s.withTracing tracing).perform (m.withLog log) (.nop (some r)) =
      ((s.withTracing false).perform m (.nop (some r))).withLog
        (log ++ Remark.written tracing (s.remarksOf m (.nop (some r)))) := by
  have said : s.remarksOf m (.nop (some r)) = [.comment text] := by
    rw [remarksOf, known]
    rfl
  rw [said, Remark.append_written_trace _ _ rfl]
  cases tracing
  · rfl
  · simp only [perform, withTracing, string?, known]
    rfl

/-- What is printed is written down in any case. -/
theorem print_withTracing {message : StringRegister} {text : String}
    (known : s.program.strings[message.index]? = some text) :
    (s.withTracing tracing).perform (m.withLog log) (.print message) =
      ((s.withTracing false).perform m (.print message)).withLog
        (log ++ Remark.written tracing (s.remarksOf m (.print message))) := by
  have said : s.remarksOf m (.print message) = [.printed text] := by
    rw [remarksOf, known]
    rfl
  have written : log ++ Remark.written tracing [.printed text] = log.push ⟨.debug, text⟩ := by
    cases tracing <;> rfl
  rw [said, written]
  simp only [perform, withTracing, known]
  rfl

theorem abort_withTracing {reason : Option StringRegister} {text : Option String}
    (found : s.string? reason = .ok text) :
    (s.withTracing tracing).perform (m.withLog log) (.abort reason) =
      ((s.withTracing false).perform m (.abort reason)).withLog
        (log ++ Remark.written tracing (s.remarksOf m (.abort reason))) := by
  have said : s.remarksOf m (.abort reason) = [.aborted text] := by
    rw [remarksOf, found]
    rfl
  have found' (tracing : Bool) : (s.withTracing tracing).string? reason = .ok text := found
  rw [said, Remark.append_written_trace _ _ rfl]
  simp only [perform, found']
  cases tracing <;> rfl

/-- An operation does the same with tracing or without, and writes down what it gives rise to. -/
theorem perform_withTracing
    (there : ∀ r, op.string? = some r → ∃ text, s.program.strings[r.index]? = some text) :
    (s.withTracing tracing).perform (m.withLog log) op =
      ((s.withTracing false).perform m op).withLog
        (log ++ Remark.written tracing (s.remarksOf m op)) := by
  by_cases quiet : op.Quiet
  · rw [perform_eq_obey, perform_eq_obey, remarksOf_quiet quiet, effect_withTracing quiet]
    rw [Remark.written_nil, Array.append_empty]
    exact obey_quiet (effect_quiet quiet m.config)
  · cases op with
    | nop comment =>
      cases comment with
      | none =>
        have said : s.remarksOf m (.nop none) = [] := rfl
        rw [said, Remark.written_nil, Array.append_empty]
        cases tracing <;> rfl
      | some r =>
        obtain ⟨text, known⟩ := there r rfl
        exact comment_withTracing known
    | print message =>
      obtain ⟨text, known⟩ := there message rfl
      exact print_withTracing known
    | abort reason =>
      cases reason with
      | none =>
        have found : s.string? none = .ok none := rfl
        exact abort_withTracing found
      | some r =>
        obtain ⟨text, known⟩ := there r rfl
        have found : s.string? (some r) = .ok (some text) := by simp only [string?, known]
        exact abort_withTracing found
    | save target => exact congrArg Step.next (pushSavePoint_withTracing tracing m log target _)
    | saveAddress target => exact congrArg Step.next (pushSavePoint_withTracing tracing m log target _)
    | _ => exact absurd trivial quiet

/-! ### Cycles and runs -/

/-- A cycle leads to the same with tracing or without, and writes down what it gives rise to. -/
theorem cycle_withTracing (decodable : s.program.Decodable) :
    (s.withTracing tracing).cycle (m.withLog log) =
      ((s.withTracing false).cycle m).withLog (log ++ Remark.written tracing (s.remarksAt m)) := by
  rcases s.cycleWith_withTracing decodable m with
    ⟨-, x, silent, ends⟩ | ⟨i, op, announced, decoded, there, remarks, silent, comes⟩
  · rw [cycle, cycle, ends, silent]
  · rw [cycle, cycle, comes, silent, remarks,
      Remark.written_cons _ _ (s.remarksOf m op), ← Array.append_assoc]
    simp only [decoded]
    exact perform_withTracing (m := { m with cycles := m.cycles + 1 }) there

/-- All that a search with tracing or without has written down, wherever it has got to. -/
theorem runFor_withTracing (decodable : s.program.Decodable) (tracing : Bool) (log : Log) (n : Nat) :
    (s.withTracing tracing).runFor n { s.start with log } =
      ((s.withTracing false).runFor n s.start).withLog
        (log ++ Remark.written tracing ((s.withTracing false).remarks n)) := by
  induction n with
  | zero =>
    have none : (s.withTracing false).remarks 0 = [] := rfl
    rw [none, Remark.written_nil, Array.append_empty]
    rfl
  | succ n ih =>
    have start : (s.withTracing false).start = s.start := rfl
    have more : (s.withTracing false).remarks (n + 1) = (s.withTracing false).remarks n ++
        s.remarksAfter ((s.withTracing false).runFor n s.start) := by
      simp only [remarks, List.range_succ, List.flatMap_append, List.flatMap_singleton, start]
      rfl
    rw [runFor_succ, runFor_succ, ih, more, Remark.written_append, ← Array.append_assoc]
    cases (s.withTracing false).runFor n s.start with
    | fault f m => simp [Step.withLog, Step.thenBy, remarksAfter]
    | next m =>
      by_cases live : m.status = .inProgress
      · have live' (log : Log) : (m.withLog log).status = .inProgress := live
        rw [Step.withLog, Step.thenBy_live (live' _), Step.thenBy_live live]
        exact cycle_withTracing decodable
      · have halted (log : Log) : (m.withLog log).status ≠ .inProgress := live
        rw [Step.withLog, Step.thenBy_halted (halted _), Step.thenBy_halted live, remarksAfter,
          s.remarksAt_halted live]
        simp [Step.withLog]

theorem run_withTracing (decodable : s.program.Decodable) (tracing : Bool) (log : Log) :
    (s.withTracing tracing).run { s.start with log } =
      ((s.withTracing false).run s.start).withLog
        (log ++ Remark.written tracing (s.withTracing false).allRemarks) := by
  have start : (s.withTracing false).start = s.start := rfl
  unfold run allRemarks
  rw [runFor_withTracing decodable, Remark.written_append, ← Array.append_assoc, start]
  cases (s.withTracing false).runFor countableCycles s.start with
  | fault f m => simp [Step.withLog, remarksAfter]
  | next m =>
    have status (log : Log) : (m.withLog log).status = m.status := rfl
    simp only [Step.withLog, status, remarksAfter]
    split
    · exact lastCycle_withTracing decodable
    next halted =>
      have nothing : (s.withTracing false).remarksAt m = [] := s.remarksAt_halted halted
      simp [nothing]

end

end Search

/-! ### Engines -/

/-- What there is written down after a computation. -/
def Logged.records {α : Type} (x : Logged α) (log : Log) : Log := (x.run.run log).2

/-- What a trace says at the end of a run, unless that is a fault. -/
def Step.closing : Step → Log
  | .next m => #[⟨.trace, Engine.closing m⟩]
  | .fault _ _ => #[]

namespace Engine

variable {E : Type}

/-- The engine with tracing or without. -/
def withTracing (e : Engine E) (tracing : Bool) : Engine E :=
  { e with settings := { e.settings with tracing } }

variable [DecidableEq E] [Spelled E] {e : Engine E} {input : Array E} {range : Span} {mode : MatchMode}
  {s : Search E}

theorem findMatch_withTracing (decodable : e.program.Decodable)
    (prepared : e.search input range mode = .ok s) (tracing : Bool) (log : Log) :
    ((e.withTracing tracing).findMatch input range mode).run.run log =
      (((s.withTracing false).run s.start).answer range.start,
        (if tracing then log.push ⟨.trace, opening input range mode⟩ else log) ++
          Remark.written tracing (s.withTracing false).allRemarks ++
          if tracing then ((s.withTracing false).run s.start).closing else #[]) := by
  obtain ⟨eq, valid⟩ := Search.prepare_spec prepared
  have program : s.program = e.program := by rw [eq]
  have prepared' : (e.withTracing tracing).search input range mode = .ok (s.withTracing tracing) := by
    rw [eq]
    exact if_pos valid
  have start : (s.withTracing tracing).start = s.start := rfl
  have noted (log : Log) (text : String) : (e.withTracing tracing).noting log text =
      if tracing then log.push ⟨.trace, text⟩ else log := rfl
  rw [findMatch_eq _ prepared', start, Search.run_withTracing (program ▸ decodable), noted]
  cases (s.withTracing false).run s.start with
  | fault f m => simp [Step.withLog, Step.closing, Machine.withLog, Step.answer]
  | next m =>
    have answer (log : Log) : (m.withLog log).answer range.start = m.answer range.start := rfl
    have closing_eq (log : Log) : closing (m.withLog log) = closing m := rfl
    simp only [Step.withLog, noted, Step.answer, answer, Step.closing, closing_eq]
    cases tracing <;> simp [Machine.withLog]

end Engine

/-- Whether an engine traces has no bearing on what it finds. -/
theorem tracing_changes_no_run {E : Type} [DecidableEq E] [Spelled E] {elements : List E}
    {calls : List (Call E)} {session : Session E} {e : Engine E} {input : Array E} {range : Span}
    {mode : MatchMode} {s : Search E}
    (replayed : (Session.fresh elements).replay calls = .ok session)
    (honest : (Session.fresh elements).honest calls = true)
    (assembled : session.assembler.assemble = .ok e.program)
    (prepared : e.search input range mode = .ok s) :
    (∀ n, ((s.withTracing true).runFor n s.start).silent =
      ((s.withTracing false).runFor n s.start).silent) ∧
    ((s.withTracing true).run s.start).silent = ((s.withTracing false).run s.start).silent ∧
    (∀ i ∈ e.program.code, i.text = .ok i.shown) ∧
    ∀ log,
      ((e.withTracing true).findMatch input range mode).result log =
        ((e.withTracing false).findMatch input range mode).result log ∧
      ((e.withTracing false).findMatch input range mode).records log =
        log ++ (((s.withTracing false).allRemarks.filter (·.level = .debug)).map Remark.record).toArray ∧
      ((e.withTracing true).findMatch input range mode).records log =
        log ++ #[⟨.trace, Engine.opening input range mode⟩] ++
          ((s.withTracing false).allRemarks.map Remark.record).toArray ++
          ((s.withTracing false).run s.start).closing := by
  have fresh : (Session.fresh elements).Backed .blank := ⟨.blank elements, nofun, nofun⟩
  obtain ⟨follows, -, named⟩ := fresh.replay honest replayed
  have decodable : e.program.Decodable := follows.decodable named assembled
  have program : s.program = e.program := by rw [(Search.prepare_spec prepared).1]
  have decodable' : s.program.Decodable := program ▸ decodable
  refine ⟨fun n => ?_, ?_, fun i member => ?_, fun log => ?_⟩
  · have ran := Search.runFor_withTracing decodable' true #[] n
    have start : { s.start with log := #[] } = s.start := rfl
    rw [start] at ran
    rw [ran, Step.silent, Step.withLog_withLog]
    rfl
  · have ran := Search.run_withTracing decodable' true #[]
    have start : { s.start with log := #[] } = s.start := rfl
    rw [start] at ran
    rw [ran, Step.silent, Step.withLog_withLog]
    rfl
  · obtain ⟨k, known⟩ := Array.mem_iff_getElem?.mp member
    rw [← program] at known
    exact Search.shown_of_decodable decodable' known
  · have traced := Engine.findMatch_withTracing decodable prepared true log
    have untraced := Engine.findMatch_withTracing decodable prepared false log
    rw [Logged.result, Logged.result, Logged.records, Logged.records, traced, untraced]
    refine ⟨rfl, ?_, ?_⟩
    · simp [Remark.written_false]
    · simp [Remark.written_true]

/-- A program that comments, prints and gives up. -/
theorem tracing_changes_no_run_aborted :
    ∃ (calls : List (Call Nat)) (session : Session Nat) (e : Engine Nat) (s : Search Nat),
      (Session.fresh []).replay calls = .ok session ∧ (Session.fresh []).honest calls = true ∧
      session.assembler.assemble = .ok e.program ∧ e.search #[7] ⟨0, 1⟩ .anywhere = .ok s ∧
      ((s.withTracing true).run s.start).silent = ((s.withTracing false).run s.start).silent ∧
      (((s.withTracing false).allRemarks.filter (·.level = .debug)).map Remark.record).toArray =
        #[⟨.debug, "seven"⟩] ∧
      ((e.withTracing true).findMatch #[7] ⟨0, 1⟩ .anywhere).records #[] =
        #[⟨.trace, "consume: [7] (Prefix)"⟩,
          ⟨.trace, "[0] pos=0 NOP %s0 (save points: 0, call depth: 0)"⟩, ⟨.trace, "start"⟩,
          ⟨.trace, "[1] pos=0 MATCH %e0 (save points: 0, call depth: 0)"⟩,
          ⟨.trace, "[2] pos=1 PRINT %s1 (save points: 0, call depth: 0)"⟩, ⟨.debug, "seven"⟩,
          ⟨.trace, "[3] pos=1 ABORT %s2 (save points: 0, call depth: 0)"⟩,
          ⟨.trace, "aborted: enough"⟩,
          ⟨.trace, "result: Fail at position 1 after 4 cycles"⟩] := by
  let calls : List (Call Nat) :=
    [.emit (.nop (some "start")), .emit (.matchElement 7), .emit (.print "seven"),
      .emit (.abort (some "enough"))]
  have writes : ((Session.fresh []).replay calls).toOption.any fun session =>
      session.assembler.assemble.toOption.any fun p =>
        let e : Engine Nat := { program := p }
        ((e.withTracing false).findMatch #[7] ⟨0, 1⟩ .anywhere).records #[] = #[⟨.debug, "seven"⟩] ∧
        ((e.withTracing true).findMatch #[7] ⟨0, 1⟩ .anywhere).records #[] =
          #[⟨.trace, "consume: [7] (Prefix)"⟩,
            ⟨.trace, "[0] pos=0 NOP %s0 (save points: 0, call depth: 0)"⟩, ⟨.trace, "start"⟩,
            ⟨.trace, "[1] pos=0 MATCH %e0 (save points: 0, call depth: 0)"⟩,
            ⟨.trace, "[2] pos=1 PRINT %s1 (save points: 0, call depth: 0)"⟩, ⟨.debug, "seven"⟩,
            ⟨.trace, "[3] pos=1 ABORT %s2 (save points: 0, call depth: 0)"⟩,
            ⟨.trace, "aborted: enough"⟩,
            ⟨.trace, "result: Fail at position 1 after 4 cycles"⟩] := by decide +kernel
  have honest : (Session.fresh []).honest calls = true := by decide +kernel
  cases replayed : (Session.fresh []).replay calls with
  | error f => rw [replayed] at writes; cases writes
  | ok session =>
    rw [replayed] at writes
    simp only [Except.toOption, Option.any_some] at writes
    cases assembled : session.assembler.assemble with
    | error f => rw [assembled] at writes; cases writes
    | ok p =>
      rw [assembled] at writes
      obtain ⟨untraced, traced⟩ := of_decide_eq_true writes
      let e : Engine Nat := { program := p }
      let s : Search Nat := ⟨p, #[7], ⟨0, 1⟩, {}⟩
      have prepared : e.search #[7] ⟨0, 1⟩ .anywhere = .ok s := rfl
      obtain ⟨-, same, -, records⟩ := tracing_changes_no_run replayed honest assembled prepared
      obtain ⟨-, printed, -⟩ := records #[]
      refine ⟨calls, session, e, s, replayed, honest, assembled, prepared, same, ?_, traced⟩
      rw [Array.empty_append] at printed
      exact printed.symm.trans untraced

end PatternMachine

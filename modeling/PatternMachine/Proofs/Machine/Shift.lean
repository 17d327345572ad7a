import PatternMachine.Proofs.Machine.Faults

/-! A machine at another place. Everything that is a position is shifted by one distance, in the registers, in
the save points and in what the trail takes back; addresses, counts and bools stay. What a machine does with
its stacks and its registers does not depend on the place. -/
namespace PatternMachine

/-! ### Positions -/

def Span.shift (k : Nat) (s : Span) : Span := ⟨k + s.start, k + s.stop⟩

theorem Span.length_shift (k : Nat) (s : Span) : (s.shift k).length = s.length :=
  Nat.add_sub_add_left k s.stop s.start

def Capture.shift (k : Nat) (c : Capture) : Capture :=
  ⟨c.opened.map (k + ·), c.value.map (Span.shift k)⟩

namespace Registers

def shift (k : Nat) (r : Registers) : Registers :=
  { r with positions := r.positions.map (k + ·), captures := r.captures.map (Capture.shift k) }

variable {k : Nat}

theorem initial_shift (counts : RegisterCounts) (sentinel : Nat) :
    (initial counts sentinel).shift k = initial counts (k + sentinel) := by
  simp [initial, shift, Capture.shift]

theorem setPosition_shift (r : Registers) (register : PositionRegister) (value : Nat) :
    (r.setPosition register value).shift k = (r.shift k).setPosition register (k + value) := by
  simp only [setPosition, shift, Array.map_setIfInBounds]

theorem modifyCapture_shift (r : Registers) (register : CaptureRegister) {f g : Capture → Capture}
    (same : ∀ c : Capture, (f c).shift k = g (c.shift k)) :
    (r.modifyCapture register f).shift k = (r.shift k).modifyCapture register g := by
  have captures : (r.captures.modify register.index f).map (Capture.shift k) =
      (r.captures.map (Capture.shift k)).modify register.index g := by
    apply Array.ext_getElem?
    intro i
    rw [Array.getElem?_map, Array.getElem?_modify, Array.getElem?_modify, Array.getElem?_map]
    split
    · cases r.captures[i]? with
      | none => rfl
      | some c => exact congrArg some (same c)
    · rfl
  simp only [modifyCapture, shift, captures]

theorem openCapture_shift (r : Registers) (register : CaptureRegister) (start : Nat) :
    (r.openCapture register start).shift k = (r.shift k).openCapture register (k + start) :=
  r.modifyCapture_shift register fun _ => rfl

theorem dropCapture_shift (r : Registers) (register : CaptureRegister) :
    (r.dropCapture register).shift k = (r.shift k).dropCapture register := by
  refine r.modifyCapture_shift register fun c => ?_
  simp only [Capture.shift, List.map_tail]

theorem closeCapture_shift (r : Registers) (register : CaptureRegister) (value : Span) :
    (r.closeCapture register value).shift k = (r.shift k).closeCapture register (value.shift k) := by
  refine r.modifyCapture_shift register fun c => ?_
  simp only [Capture.shift, List.map_tail, Option.map_some]

theorem reopenCapture_shift (r : Registers) (register : CaptureRegister) (start : Nat)
    (old : Option Span) :
    (r.reopenCapture register start old).shift k =
      (r.shift k).reopenCapture register (k + start) (old.map (Span.shift k)) :=
  r.modifyCapture_shift register fun _ => rfl

end Registers

def Configuration.shift (k : Nat) (c : Configuration) : Configuration :=
  { c with position := k + c.position, registers := c.registers.shift k }

def SavePoint.shift (k : Nat) (sp : SavePoint) : SavePoint :=
  { sp with position := sp.position.map (k + ·) }

def Undo.shift (k : Nat) : Undo → Undo
  | .position register old => .position register (k + old)
  | .endCapture register start old => .endCapture register (k + start) (old.map (Span.shift k))
  | .bool register old => .bool register old
  | .beginCapture register => .beginCapture register
  | .call => .call
  | .ret address => .ret address

/-- The faults that name positions. -/
def Fault.shift (k : Nat) : Fault → Fault
  | .positionOutOfRange position range => .positionOutOfRange (k + position) (range.shift k)
  | .consumedOutOfRange position range => .consumedOutOfRange (k + position) (range.shift k)
  | f => f

theorem Fault.shift_ofWord {f : Fault} (h : f.OfWord) (k : Nat) : f.shift k = f := by
  cases f <;> first | rfl | exact h.elim

def Effect.shift (k : Nat) : Effect → Effect
  | .fault f => .fault (f.shift k)
  | .go pc position => .go pc (k + position)
  | .change c u => .change (c.shift k) (u.shift k)
  | .save resume position => .save resume (position.map (k + ·))
  | e => e

namespace Stack

variable {α β : Type}

def map (f : α → β) (s : Stack α) : Stack β := ⟨s.items.map f, s.depth, by simp [s.depth_eq]⟩

theorem isEmpty_map (f : α → β) (s : Stack α) : (s.map f).isEmpty = s.isEmpty := by
  simp [isEmpty, map]

theorem top?_map (f : α → β) (s : Stack α) : (s.map f).top? = s.top?.map f := by
  simp [top?, map]

theorem pop?_map (f : α → β) (s : Stack α) :
    (s.map f).pop? = s.pop?.map fun top => (f top.1, top.2.map f) := by
  obtain ⟨_ | ⟨a, items⟩, depth, eq⟩ := s <;> rfl

end Stack

/-! ### Machines -/

namespace Machine

/-- The machine at another place, with other records. -/
def shift (k : Nat) (log : Log) (m : Machine) : Machine :=
  { m with
    position := k + m.position
    registers := m.registers.shift k
    savePoints := m.savePoints.map (SavePoint.shift k)
    trail := m.trail.map (Undo.shift k)
    log }

end Machine

def Step.shift (k : Nat) (log : Log) : Step → Step
  | .next m => .next (m.shift k log)
  | .fault f m => .fault (f.shift k) (m.shift k log)

namespace Machine

variable (k : Nat) (log : Log)

theorem savePoints_isEmpty_shift (m : Machine) :
    (m.shift k log).savePoints.isEmpty = m.savePoints.isEmpty := Stack.isEmpty_map _ _

theorem savePoints_pop?_shift (m : Machine) :
    (m.shift k log).savePoints.pop? =
      m.savePoints.pop?.map fun top => (top.1.shift k, top.2.map (SavePoint.shift k)) :=
  Stack.pop?_map _ _

theorem note_shift (m : Machine) (u : Undo) :
    (m.shift k log).note (u.shift k) = (m.note u).shift k log := by
  unfold note
  rw [savePoints_isEmpty_shift]
  split <;> rfl

theorem dropUnusedTrail_shift (m : Machine) :
    (m.shift k log).dropUnusedTrail = m.dropUnusedTrail.shift k log := by
  unfold dropUnusedTrail
  rw [savePoints_isEmpty_shift]
  split <;> rfl

theorem undo_shift (m : Machine) (u : Undo) :
    (m.shift k log).undo (u.shift k) = (m.undo u).shift k log := by
  cases u with
  | position register old => simp only [undo, Undo.shift, shift, Registers.setPosition_shift]
  | beginCapture register => simp only [undo, Undo.shift, shift, Registers.dropCapture_shift]
  | endCapture register start old => simp only [undo, Undo.shift, shift, Registers.reopenCapture_shift]
  | _ => rfl

theorem undoLatest_shift (n : Nat) (m : Machine) :
    undoLatest n (m.shift k log) = (undoLatest n m).shift k log := by
  induction n generalizing m with
  | zero => rfl
  | succ n ih =>
    have popped : (m.shift k log).trail.pop? =
        m.trail.pop?.map fun top => (top.1.shift k, top.2.map (Undo.shift k)) := Stack.pop?_map _ _
    unfold undoLatest
    rw [popped]
    cases m.trail.pop? with
    | none => rfl
    | some top =>
      obtain ⟨u, trail⟩ := top
      have undone := undo_shift k log { m with trail } u
      exact (congrArg (undoLatest n) undone).trans (ih _)

/-- Where a machine resumes is shifted like all positions that it has saved. -/
theorem backtrack_shift (m : Machine) : (m.shift k log).backtrack = m.backtrack.shift k log := by
  unfold backtrack
  rw [savePoints_pop?_shift]
  cases m.savePoints.pop? with
  | none => rfl
  | some top =>
    obtain ⟨sp, savePoints⟩ := top
    have unwound : ({ m.shift k log with savePoints := savePoints.map (SavePoint.shift k) } : Machine).unwind
        sp.trailEnd = (({ m with savePoints } : Machine).unwind sp.trailEnd).shift k log :=
      undoLatest_shift k log _ { m with savePoints }
    have trailEnd : (sp.shift k).trailEnd = sp.trailEnd := rfl
    simp only [Option.map_some, trailEnd, unwound]
    generalize ({ m with savePoints } : Machine).unwind sp.trailEnd = left
    by_cases same : left.callStack.depth = sp.callDepth
    · have position : (sp.position.map (k + ·)).getD (k + left.position) =
          k + sp.position.getD left.position := by
        cases sp.position <;> rfl
      have resumed := dropUnusedTrail_shift k log
        { left with pc := sp.resume, position := sp.position.getD left.position }
      rw [if_pos same]
      refine (if_pos same).trans (congrArg Step.next (Eq.trans ?_ resumed))
      simp only [shift, SavePoint.shift, position]
    · rw [if_neg same]
      exact if_neg same

theorem clearThrough_shift (target : Address) (saved : Stack SavePoint) :
    clearThrough target (saved.map (SavePoint.shift k)) =
      (clearThrough target saved).map (Stack.map (SavePoint.shift k)) := by
  have walk (items : List SavePoint) (depth : Nat) (eq : depth = items.length)
      (eq' : depth = (items.map (SavePoint.shift k)).length) :
      clearThrough.go target (items.map (SavePoint.shift k)) depth eq' =
        (clearThrough.go target items depth eq).map (Stack.map (SavePoint.shift k)) := by
    induction items generalizing depth with
    | nil => rfl
    | cons sp rest ih =>
      have resume : (sp.shift k).resume = sp.resume := rfl
      simp only [List.map_cons, clearThrough.go, resume]
      split
      · rfl
      · exact ih _ _ _
  exact walk _ _ _ _

end Machine

namespace Search

variable {E : Type} {s s' : Search E} {k : Nat}

theorem trace_shift (s s' : Search E) (m : Machine) (text : String) (log : Log) :
    ∃ log', s'.trace (m.shift k log) text = (s.trace m text).shift k log' := by
  obtain ⟨log', left⟩ := s'.trace_eq (m.shift k log) text
  obtain ⟨log'', right⟩ := s.trace_eq m text
  exact ⟨log', by rw [left, right]; rfl⟩

theorem halt_shift (s s' : Search E) (m : Machine) (e : MatchError) (log : Log) :
    ∃ log', s'.halt (m.shift k log) e = (s.halt m e).shift k log' := by
  obtain ⟨log', traced⟩ := s.trace_shift s' (k := k) m ("halted: " ++ e.message) log
  exact ⟨log', by rw [halt, traced]; rfl⟩

theorem pushSavePoint_shift (same : s'.settings = s.settings) (m : Machine) (resume : Address)
    (position : Option Nat) (log : Log) :
    ∃ log', s'.pushSavePoint (m.shift k log) resume (position.map (k + ·)) =
      (s.pushSavePoint m resume position).shift k log' := by
  have depth : (m.shift k log).savePoints.depth = m.savePoints.depth := rfl
  unfold pushSavePoint
  rw [same, depth]
  split
  · exact ⟨log, rfl⟩
  · exact s.halt_shift s' m _ log

theorem announce_shift (same : s'.settings = s.settings) (m : Machine) (i : Instruction) (log : Log) :
    (∃ f, s.announce m i = .error f ∧ s'.announce (m.shift k log) i = .error f) ∨
      ∃ m' log', s.announce m i = .ok m' ∧ s'.announce (m.shift k log) i = .ok (m'.shift k log') := by
  unfold announce announcement
  rw [same]
  split
  · cases i.text with
    | error f => exact .inl ⟨f, rfl, rfl⟩
    | ok text => exact .inr ⟨_, _, rfl, rfl⟩
  · exact .inr ⟨m, log, rfl, rfl⟩

/-- Fetching does not depend on the place, but for what it records. -/
theorem fetch_shift (same : s'.settings = s.settings) (program : s'.program = s.program) (m : Machine)
    (log : Log) :
    (∃ f m' log', s.fetch m = .error (f, m') ∧
        s'.fetch (m.shift k log) = .error (f, m'.shift k log')) ∨
      ∃ m' op log', s.fetch m = .ok (m', op) ∧
        s'.fetch (m.shift k log) = .ok (m'.shift k log', op) := by
  have pc : (m.shift k log).pc = m.pc := rfl
  unfold fetch
  rw [program, pc]
  cases s.program.code[m.pc.index]? with
  | none => exact .inl ⟨_, m, log, rfl, rfl⟩
  | some i =>
    rcases announce_shift (k := k) same m i log with ⟨f, left, right⟩ | ⟨m', log', left, right⟩
    · simp only [left, right]
      exact .inl ⟨f, m, log, rfl, rfl⟩
    · simp only [left, right]
      cases i.decode with
      | error f => exact .inl ⟨f, _, log', rfl, rfl⟩
      | ok op => exact .inr ⟨_, op, log', rfl, rfl⟩

/-- Obeying is the same at every place. -/
theorem obey_shift (same : s'.settings = s.settings) (m : Machine) (e : Effect) (log : Log) :
    ∃ log', s'.obey (m.shift k log) (e.shift k) = (s.obey m e).shift k log' := by
  cases e with
  | fault f => exact ⟨log, rfl⟩
  | go pc position => exact ⟨log, rfl⟩
  | say level text => exact ⟨log.push ⟨level, text⟩, rfl⟩
  | accept => exact ⟨log, rfl⟩
  | backtrack => exact ⟨log, m.backtrack_shift k log⟩
  | change c u =>
    have noted := Machine.note_shift k log
      { m with
        pc := c.pc, position := c.position, registers := c.registers, callStack := c.callStack } u
    exact ⟨log, congrArg Step.next noted⟩
  | save resume position =>
    obtain ⟨log', pushed⟩ := pushSavePoint_shift (k := k) same m resume position log
    exact ⟨log', congrArg Step.next pushed⟩
  | drop =>
    refine ⟨log, ?_⟩
    simp only [Effect.shift, obey, Machine.savePoints_pop?_shift]
    cases m.savePoints.pop? with
    | none => rfl
    | some top =>
      have dropped := Machine.dropUnusedTrail_shift k log { m with savePoints := top.2 }
      exact congrArg (fun m => Step.next m.advance) dropped
  | dropThrough target =>
    have cleared : Machine.clearThrough target (m.shift k log).savePoints =
        (Machine.clearThrough target m.savePoints).map (Stack.map (SavePoint.shift k)) :=
      Machine.clearThrough_shift k target _
    refine ⟨log, ?_⟩
    simp only [Effect.shift, obey, cleared]
    cases Machine.clearThrough target m.savePoints with
    | none => rfl
    | some savePoints =>
      have dropped := Machine.dropUnusedTrail_shift k log { m with savePoints }
      exact congrArg (fun m => Step.next m.advance) dropped
  | abort reason =>
    obtain ⟨log', traced⟩ := s.trace_shift s' (k := k)
      { m with abortReason := reason, status := .failed } ("aborted: " ++ reason.getD "") log
    exact ⟨log', congrArg Step.next traced⟩

end Search

end PatternMachine

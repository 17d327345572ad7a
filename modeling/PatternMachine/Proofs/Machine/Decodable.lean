import PatternMachine.Program.Listing
import PatternMachine.Proofs.Instruction.Naming
import PatternMachine.Proofs.Machine.Positions

/-! Programs in which every word is an operation with registers that are there. Such a program has a
listing, and a search with it ends in a fault only if the program itself is wrong, in one of five ways.
What is undone while backtracking is in the registers, too. -/
namespace PatternMachine

variable {E : Type}

/-- Every word is a valid operation with registers that are there. -/
structure Program.Decodable (p : Program E) : Prop where
  elements : p.elements.size = p.registers.elements
  strings : p.strings.size = p.registers.strings
  predicates : p.predicates.size = p.registers.predicates
  consumeFunctions : p.consumeFunctions.size = p.registers.consumeFunctions
  code : ∀ (i : Nat) instruction, p.code[i]? = some instruction →
    ∃ op, instruction.decode = .ok op ∧ op ≠ .invalid ∧ ∀ h ∈ op.registers, p.registers.Has h

/-- There are as many registers as are counted. -/
structure Registers.Counted (r : Registers) (counts : RegisterCounts) : Prop where
  bools : r.bools.size = counts.bools
  positions : r.positions.size = counts.positions
  captures : r.captures.size = counts.captures

/-! ### Listings -/

namespace Program

variable {p : Program E}

theorem stringNote_ok {string : Option StringRegister}
    (inside : ∀ r, string = some r → r.index < p.strings.size) :
    ∃ note, p.stringNote string = .ok note := by
  cases string with
  | none => exact ⟨"", rfl⟩
  | some r =>
    simp only [stringNote, Array.getElem?_eq_getElem (inside r rfl)]
    exact ⟨_, rfl⟩

theorem targetNote_ok (shown : ∀ i ∈ p.code, ∃ text, i.text = .ok text) (target : Option Address) :
    ∃ note, p.targetNote target = .ok note := by
  cases target with
  | none => exact ⟨"", rfl⟩
  | some a =>
    cases there : p.code[a.index]? with
    | none => simp only [targetNote, there]; exact ⟨_, rfl⟩
    | some instruction =>
      obtain ⟨text, known⟩ := shown _ (Array.mem_of_getElem? there)
      simp only [targetNote, there, known]
      exact ⟨_, rfl⟩

/-- A line can be shown if its string is there and all words have a text. -/
theorem listingLine_ok (shown : ∀ i ∈ p.code, ∃ text, i.text = .ok text) {i : Instruction} {address : Nat}
    {string : Option StringRegister} {target : Option Address} (member : i ∈ p.code)
    (named : i.string? = .ok string) (jumps : i.target? = .ok target)
    (inside : ∀ r, string = some r → r.index < p.strings.size) :
    ∃ text, p.listingLine address i = .ok text := by
  obtain ⟨text, known⟩ := shown i member
  obtain ⟨note, noted⟩ := stringNote_ok inside
  obtain ⟨note', noted'⟩ := targetNote_ok shown target
  simp only [listingLine, known, named, jumps, noted, noted', ok_bind]
  exact ⟨_, rfl⟩

end Program

namespace Program.Decodable

variable {p : Program E}

theorem shown (h : p.Decodable) {i : Instruction} (member : i ∈ p.code) : ∃ text, i.text = .ok text := by
  obtain ⟨k, known⟩ := Array.getElem?_of_mem member
  obtain ⟨op, decoded, -⟩ := h.code k i known
  exact Instruction.text_of_decode decoded

theorem listingLine_ok (h : p.Decodable) {i : Nat} {instruction : Instruction}
    (known : p.code[i]? = some instruction) : ∃ text, p.listingLine i instruction = .ok text := by
  obtain ⟨op, decoded, -, fits⟩ := h.code i instruction known
  obtain ⟨string, target⟩ := Instruction.notes_of_decode decoded
  refine Program.listingLine_ok (fun _ => h.shown) (Array.mem_of_getElem? known) string target ?_
  exact fun r named => h.strings ▸ fits _ (Operation.string_mem named)

theorem listing_ok [Spelled E] (h : p.Decodable) : ∃ text, p.listing = .ok text := by
  have each : ∀ line ∈ p.code.toList.zipIdx,
      ∃ text, p.listingLine line.2 line.1 = .ok text := by
    intro line member
    have known := List.mk_mem_zipIdx_iff_getElem?.mp member
    rw [Array.getElem?_toList] at known
    exact h.listingLine_ok known
  obtain ⟨lines, mapped⟩ := mapM_ok each
  unfold listing
  simp only [mapped]
  exact ⟨_, rfl⟩

end Program.Decodable

/-! ### Faults of well-formed operations -/

/-- The five ways in which a program can be wrong, each with its cause. -/
inductive Fault.OfProgram (s : Search E) (m : Machine) : Fault → Prop
  | pastEnd (past : s.program.code.size ≤ m.pc.index) : OfProgram s m (.pastEnd m.pc)
  | noSavePoint (here : s.program.operation? m.pc.index = some .clear)
      (none : m.savePoints.items = []) : OfProgram s m .noSavePoint
  | noSavePointAt {target : Address}
      (here : s.program.operation? m.pc.index = some (.clearThrough target))
      (none : ∀ sp ∈ m.savePoints.items, sp.resume ≠ target) : OfProgram s m (.noSavePointAt target)
  | captureNotOpen {register : CaptureRegister} {capture : Capture}
      (here : s.program.operation? m.pc.index = some (.endCapture register))
      (known : m.registers.captures[register.index]? = some capture) (closed : capture.opened = []) :
      OfProgram s m (.captureNotOpen register)
  | consumedOutOfRange {register : ConsumeRegister} {f : ConsumeFunction E} {position : Nat}
      (here : s.program.operation? m.pc.index = some (.consumeBy register))
      (known : s.program.consumeFunctions[register.index]? = some f)
      (consumed : f s.input ⟨m.position, s.range.stop⟩ = some position)
      (outside : ¬(m.position ≤ position ∧ position ≤ s.range.stop)) :
      OfProgram s m (.consumedOutOfRange position ⟨m.position, s.range.stop⟩)

namespace Search

variable {s : Search E} {m m' : Machine} {f : Fault}

theorem assignment_ne_fault {c : Configuration} {register : BoolRegister} {value : Bool}
    (within : c.Within s) (bound : register.index < s.program.registers.bools) :
    assignment c register value ≠ .fault f := by
  obtain ⟨old, known⟩ := getElem?_of_lt bound within.registers.bools
  simp [assignment, known]

theorem consumption_ne_fault {c : Configuration} {holds : Bool} : consumption c holds ≠ .fault f := by
  unfold consumption
  split <;> exact nofun

/-- With registers that are there, only a group that is not open and a consume function that leaves its
range are wrong. -/
theorem effect_fault_ofProgram [DecidableEq E] (decodable : s.program.Decodable)
    (stop : s.range.stop ≤ s.input.size) {op : Operation} (valid : op ≠ .invalid)
    (fits : ∀ h ∈ op.registers, s.program.registers.Has h) (within : m.config.Within s)
    (here : s.program.operation? m.pc.index = some op) (faulty : s.effect m.config op = .fault f) :
    f.OfProgram s m := by
  have text (named : Option StringRegister) (eq : op.string? = named) :
      ∃ t, s.string? named = .ok t := by
    cases named with
    | none => exact ⟨none, rfl⟩
    | some r =>
      have inside : r.index < s.program.strings.size :=
        decodable.strings ▸ fits _ (Operation.string_mem eq)
      simp only [string?, Array.getElem?_eq_getElem inside]
      exact ⟨_, rfl⟩
  cases op <;> simp only [effect] at faulty
  case invalid => exact absurd rfl valid
  case nop comment =>
    obtain ⟨t, eq⟩ := text comment rfl
    rw [eq] at faulty
    split at faulty
    · cases t <;> cases faulty
    · cases faulty
  case abort reason =>
    obtain ⟨t, eq⟩ := text reason rfl
    rw [eq] at faulty
    cases faulty
  case print message =>
    have inside : message.index < s.program.strings.size := decodable.strings ▸ fits _ (.head _)
    rw [Array.getElem?_eq_getElem inside] at faulty
    cases faulty
  case condBranch condition target =>
    obtain ⟨value, known⟩ := getElem?_of_lt (fits _ (.head _)) within.registers.bools
    rw [known] at faulty
    cases value <;> cases faulty
  case ret =>
    split at faulty
    · exact absurd faulty acceptance_ne_fault
    · cases faulty
  case accept => exact absurd faulty acceptance_ne_fault
  case consume distance =>
    rw [remaining_ok within.inside] at faulty
    dsimp only at faulty
    split at faulty <;> cases faulty
  case consumeBy register =>
    split at faulty
    next missing =>
      have inside : register.index < s.program.consumeFunctions.size :=
        decodable.consumeFunctions ▸ fits _ (.head _)
      rw [Array.getElem?_eq_getElem inside] at missing
      cases missing
    next g known =>
      split at faulty
      · cases faulty
      next position consumed =>
        split at faulty
        · cases faulty
        next outside =>
          cases faulty
          exact .consumedOutOfRange here known consumed outside
  case matchElement element =>
    have inside : element.index < s.program.elements.size := decodable.elements ▸ fits _ (.head _)
    rw [Array.getElem?_eq_getElem inside] at faulty
    exact absurd faulty consumption_ne_fault
  case matchPredicate predicate =>
    have inside : predicate.index < s.program.predicates.size :=
      decodable.predicates ▸ fits _ (.head _)
    rw [Array.getElem?_eq_getElem inside] at faulty
    exact absurd faulty consumption_ne_fault
  case assertion element condition =>
    have inside : element.index < s.program.elements.size := decodable.elements ▸ fits _ (.head _)
    rw [Array.getElem?_eq_getElem inside] at faulty
    exact absurd faulty (assignment_ne_fault within (fits ⟨_, condition⟩ (.tail _ (.head _))))
  case movePosition register =>
    obtain ⟨old, known⟩ := getElem?_of_lt (fits _ (.head _)) within.registers.positions
    rw [known] at faulty
    cases faulty
  case comparePosition register condition =>
    obtain ⟨old, known⟩ := getElem?_of_lt (fits _ (.head _)) within.registers.positions
    rw [known] at faulty
    exact absurd faulty (assignment_ne_fault within (fits ⟨_, condition⟩ (.tail _ (.head _))))
  case beginCapture register =>
    obtain ⟨capture, known⟩ := getElem?_of_lt (fits _ (.head _)) within.registers.captures
    rw [known] at faulty
    cases faulty
  case endCapture register =>
    obtain ⟨⟨opened, value⟩, known⟩ := getElem?_of_lt (fits _ (.head _)) within.registers.captures
    rw [known] at faulty
    cases opened with
    | nil => cases faulty; exact .captureNotOpen here known rfl
    | cons start opened => cases faulty
  case backreference register =>
    obtain ⟨⟨opened, value⟩, known⟩ := getElem?_of_lt (fits _ (.head _)) within.registers.captures
    rw [known] at faulty
    cases value with
    | none => cases faulty
    | some captured =>
      obtain ⟨again, eq⟩ := repeats_ok within stop known rfl
      simp only [eq] at faulty
      cases again <;> cases faulty
  all_goals cases faulty

/-- Save points are dropped by the operations that say so. -/
theorem effect_drop [DecidableEq E] (s : Search E) (c : Configuration) (op : Operation) :
    (s.effect c op = .drop → op = .clear) ∧
      ∀ target, s.effect c op = .dropThrough target → op = .clearThrough target := by
  have acceptance (e : Effect) (h : s.acceptance c = e) : e = .backtrack ∨ e = .accept := by
    unfold Search.acceptance at h
    split at h
    · exact .inl h.symm
    · exact .inr h.symm
  cases op
  case clear => simp [effect]
  case clearThrough a => simp [effect]
  case accept =>
    refine ⟨fun eq => ?_, fun target eq => ?_⟩
    all_goals rcases acceptance _ eq with h | h <;> cases h
  case ret =>
    simp only [effect]
    split
    · refine ⟨fun eq => ?_, fun target eq => ?_⟩
      all_goals rcases acceptance _ eq with h | h <;> cases h
    · simp
  all_goals
    simp only [effect, consumption, assignment]
    repeat' split
    all_goals simp

/-- In a program that can be decoded, only the end of the program cannot be fetched. -/
theorem fetch_decodable (decodable : s.program.Decodable) (m : Machine) :
    (s.program.code.size ≤ m.pc.index ∧ s.fetch m = .error (.pastEnd m.pc, m)) ∨
      ∃ log op, s.fetch m = .ok ({ m with log, cycles := m.cycles + 1 }, op) ∧
        s.program.operation? m.pc.index = some op ∧ op ≠ .invalid ∧
        ∀ h ∈ op.registers, s.program.registers.Has h := by
  cases known : s.program.code[m.pc.index]? with
  | none =>
    refine .inl ⟨Array.getElem?_eq_none_iff.mp known, ?_⟩
    simp only [fetch, known]
  | some i =>
    obtain ⟨op, decoded, valid, fits⟩ := decodable.code m.pc.index i known
    obtain ⟨text, shown⟩ := Instruction.text_of_decode decoded
    have announced : ∃ log, s.announce m i = .ok { m with log } := by
      unfold announce
      split
      · simp only [announcement, shown]
        exact ⟨_, rfl⟩
      · exact ⟨m.log, rfl⟩
    obtain ⟨log, announced⟩ := announced
    refine .inr ⟨log, op, ?_, ?_, valid, fits⟩
    · simp only [fetch, known, announced, decoded]
    · simp [Program.operation?, known, decoded, Except.toOption]

theorem backtrack_fault (faulty : m.backtrack = .fault f m') : f = .callDepthChanged := by
  unfold Machine.backtrack at faulty
  split at faulty
  · cases faulty
  · dsimp only at faulty
    split at faulty <;> cases faulty
    rfl

theorem clearThrough_missing {target : Address} {savePoints : Stack SavePoint}
    (cleared : Machine.clearThrough target savePoints = none) :
    ∀ sp ∈ savePoints.items, sp.resume ≠ target := by
  have walk (items : List SavePoint) (depth : Nat) (eq : depth = items.length)
      (cleared : Machine.clearThrough.go target items depth eq = none) :
      ∀ sp ∈ items, sp.resume ≠ target := by
    induction items generalizing depth with
    | nil => exact nofun
    | cons sp rest ih =>
      unfold Machine.clearThrough.go at cleared
      split at cleared
      · cases cleared
      next other =>
        intro sp' member
        rcases List.mem_cons.mp member with rfl | member
        · exact other
        · exact ih _ _ cleared sp' member
  exact walk _ _ _ cleared

variable [DecidableEq E]

/-- In such a program, only the program itself can be wrong, or the depth of the call stack. -/
theorem cycle_fault_ofProgram (decodable : s.program.Decodable) (stop : s.range.stop ≤ s.input.size)
    (checked : s.check m = none) (within : m.config.Within s)
    (faulty : s.cycle m = .fault f m') : f.OfProgram s m ∨ f = .callDepthChanged := by
  rw [cycle_eq, checked] at faulty
  dsimp only at faulty
  split at faulty
  · cases faulty
  rcases fetch_decodable decodable m with ⟨past, fetched⟩ | ⟨log, op, fetched, here, valid, fits⟩
  · rw [turn_of_error fetched] at faulty
    cases faulty
    exact .inl (.pastEnd past)
  · rw [turn_of_ok fetched] at faulty
    obtain ⟨drops, dropsThrough⟩ := s.effect_drop m.config op
    generalize effected : s.effect m.config op = e at faulty drops dropsThrough
    cases e with
    | fault f' =>
      cases faulty
      exact .inl (effect_fault_ofProgram decodable stop valid fits within here effected)
    | drop =>
      cases drops rfl
      simp only [obey] at faulty
      split at faulty
      next empty =>
        cases faulty
        refine .inl (.noSavePoint here ?_)
        cases saved : m.savePoints.items with
        | nil => rfl
        | cons sp rest => rw [Stack.pop?_of_items_cons saved] at empty; cases empty
      · cases faulty
    | dropThrough target =>
      cases dropsThrough target rfl
      simp only [obey] at faulty
      split at faulty
      next missing =>
        cases faulty
        exact .inl (.noSavePointAt here (clearThrough_missing missing))
      · cases faulty
    | backtrack => exact .inr (backtrack_fault faulty)
    | _ => cases faulty

end Search

/-! ### What is undone -/

/-- The registers that are put back. -/
def Undo.registers : Undo → List AnyHandle
  | .bool register _ => [⟨_, register⟩]
  | .position register _ => [⟨_, register⟩]
  | .beginCapture register | .endCapture register _ _ => [⟨_, register⟩]
  | .call | .ret _ => []

/-- Every change that is noted satisfies `P`. -/
def Machine.Notes (m : Machine) (P : Undo → Prop) : Prop := ∀ u ∈ m.trail.items, P u

namespace Machine.Notes

variable {m : Machine} {P : Undo → Prop}

theorem note (h : m.Notes P) {u : Undo} (noted : P u) : (m.note u).Notes P := by
  unfold Machine.note
  split
  · exact h
  · intro v member
    rcases List.mem_cons.mp member with rfl | member
    · exact noted
    · exact h v member

theorem dropUnusedTrail (h : m.Notes P) : m.dropUnusedTrail.Notes P := by
  unfold Machine.dropUnusedTrail
  split
  · exact nofun
  · exact h

theorem undoLatest (n : Nat) (h : m.Notes P) : (Machine.undoLatest n m).Notes P := by
  induction n generalizing m with
  | zero => exact h
  | succ n ih =>
    unfold Machine.undoLatest
    split
    · exact h
    next u trail popped =>
      have below : trail.items ⊆ m.trail.items := by
        rw [← Stack.push_of_pop? popped]
        exact List.subset_cons_self _ _
      apply ih
      rw [Machine.undo_eq]
      exact fun v member => h v (below member)

theorem backtrack (h : m.Notes P) : m.backtrack.machine.Notes P := by
  unfold Machine.backtrack
  split
  · exact h
  next sp savePoints popped =>
    have unwound : (({ m with savePoints } : Machine).unwind sp.trailEnd).Notes P :=
      undoLatest _ h
    generalize ({ m with savePoints } : Machine).unwind sp.trailEnd = left at unwound ⊢
    dsimp only
    split
    · exact dropUnusedTrail unwound
    · exact unwound

theorem obey {E : Type} {s : Search E} (h : m.Notes P) {e : Effect}
    (noted : ∀ c u, e = .change c u → P u) : (s.obey m e).machine.Notes P := by
  cases e with
  | fault f => exact h
  | go pc position => exact h
  | say level text => exact h
  | change c u =>
    have changed : Machine.Notes { m with
        pc := c.pc, position := c.position, registers := c.registers, callStack := c.callStack } P := h
    exact changed.note (noted c u rfl)
  | save resume position =>
    simp only [Search.obey, Search.pushSavePoint, Step.machine]
    split
    · exact h
    · obtain ⟨log, eq⟩ := s.halt_eq m (.backtrackLimitExceeded s.settings.maxSavePoints)
      rw [eq]
      exact h
  | drop =>
    simp only [Search.obey]
    split
    · exact h
    next savePoints _ =>
      have dropped : Machine.Notes { m with savePoints } P := h
      exact dropped.dropUnusedTrail
  | dropThrough target =>
    simp only [Search.obey]
    split
    · exact h
    next savePoints _ =>
      have dropped : Machine.Notes { m with savePoints } P := h
      exact dropped.dropUnusedTrail
  | backtrack => exact backtrack h
  | accept => exact h
  | abort reason =>
    obtain ⟨log, eq⟩ := s.trace_eq { m with abortReason := reason, status := .failed }
      ("aborted: " ++ reason.getD "")
    simp only [Search.obey, eq]
    exact h

end Machine.Notes

namespace Search

variable {s : Search E} {m m' : Machine} [DecidableEq E]

/-- The registers that are put back are those that the operation names. -/
theorem effect_change_registers {c c' : Configuration} {op : Operation} {u : Undo}
    (changed : s.effect c op = .change c' u) : u.registers ⊆ op.registers := by
  cases op <;> simp only [effect, consumption, assignment] at changed
  case ret =>
    split at changed
    · exact absurd changed (acceptance_ne_change s c c' u)
    · cases changed; exact List.nil_subset _
  case accept => exact absurd changed (acceptance_ne_change s c c' u)
  case call => cases changed; exact List.nil_subset _
  all_goals
    repeat' split at changed
    all_goals cases changed
  all_goals simp [Undo.registers, Operation.registers]

theorem cycle_notes (decodable : s.program.Decodable)
    (notes : m.Notes fun u => ∀ h ∈ u.registers, s.program.registers.Has h)
    (cycled : s.cycle m = .next m') :
    m'.Notes fun u => ∀ h ∈ u.registers, s.program.registers.Has h := by
  obtain ⟨-, ⟨e, rfl⟩ | turned⟩ := cycle_halt_or_turn cycled
  · obtain ⟨log, eq⟩ := s.halt_eq m e
    rw [eq]
    exact notes
  · rcases fetch_decodable decodable m with ⟨-, fetched⟩ | ⟨log, op, fetched, -, -, fits⟩
    · rw [turn_of_error fetched] at turned
      cases turned
    · rw [turn_of_ok fetched] at turned
      have counted : Machine.Notes { m with log, cycles := m.cycles + 1 } _ := notes
      have kept := counted.obey (s := s) (e := s.effect m.config op) fun c u changed h member =>
        fits h (effect_change_registers changed member)
      rw [turned] at kept
      exact kept

theorem runFor_notes (decodable : s.program.Decodable) {n : Nat}
    (ran : s.runFor n s.start = .next m) :
    m.Notes fun u => ∀ h ∈ u.registers, s.program.registers.Has h := by
  induction n generalizing m with
  | zero => cases ran; exact nofun
  | succ n ih =>
    rw [runFor_succ] at ran
    cases before : s.runFor n s.start with
    | fault f m'' => rw [before] at ran; cases ran
    | next m'' =>
      rw [before] at ran
      by_cases live : m''.status = .inProgress
      · rw [Step.thenBy_live live] at ran
        exact cycle_notes decodable (ih before) ran
      · rw [Step.thenBy_halted live] at ran
        cases ran
        exact ih before

/-- Wherever a search with such a program gets to, the registers are those that are counted, what may be
undone is among them, and its next cycle ends in a fault only if the program is wrong. -/
theorem runFor_decodable (decodable : s.program.Decodable) (start : s.range.start ≤ s.range.stop)
    (stop : s.range.stop ≤ s.input.size) {n : Nat} (ran : s.runFor n s.start = .next m) :
    m.registers.Counted s.program.registers ∧
      (∀ u ∈ m.trail.items, ∀ h ∈ u.registers, s.program.registers.Has h) ∧
      (m.status = .inProgress → ∀ f m', s.cycle m = .fault f m' → f.OfProgram s m) := by
  obtain ⟨r, tracks, within⟩ := runFor_within start ran
  have bounds := within.at tracks
  have counted : m.registers.Counted s.program.registers :=
    ⟨bounds.registers.bools, bounds.registers.positions, bounds.registers.captures⟩
  refine ⟨counted, runFor_notes decodable ran, fun live f m' faulty => ?_⟩
  have checked := runFor_check start ran live
  rcases cycle_fault_ofProgram decodable stop checked bounds faulty with wrong | rfl
  · exact wrong
  · have both := trail_refines_copies s (n + 1)
    rw [runFor_add ran, runFor_one live, faulty] at both
    split at both
    · contradiction
    next f' m' _ _ eq _ => cases eq; exact absurd trivial both.2.2
    · exact both.elim

end Search

end PatternMachine

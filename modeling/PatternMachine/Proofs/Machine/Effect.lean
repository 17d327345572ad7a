import PatternMachine.Machine.Search

/-! What an operation asks of a machine depends only on the place where the machine stands, on its
registers and on its call stack. Machines that keep their save points in different ways obey the same
effects; `perform_eq_obey` says that performing an operation is obeying its effect. -/
namespace PatternMachine

/-- The place where a machine stands, and what a save point brings back. -/
structure Configuration where
  pc : Address
  position : Nat
  registers : Registers
  callStack : Stack Address

def Configuration.advance (c : Configuration) : Configuration := { c with pc := c.pc.next }

def Machine.config (m : Machine) : Configuration := ⟨m.pc, m.position, m.registers, m.callStack⟩

/-- A change comes with the entry that takes it back. -/
inductive Effect where
  | fault (f : Fault)
  | go (pc : Address) (position : Nat)
  | say (level : Level) (text : String)
  | change (c : Configuration) (u : Undo)
  | save (resume : Address) (position : Option Nat)
  | drop
  | dropThrough (target : Address)
  | backtrack
  | accept
  | abort (reason : Option String)

namespace Search

variable {E : Type}

def acceptance (s : Search E) (c : Configuration) : Effect :=
  if s.settings.mode = .whole ∧ c.position ≠ s.range.stop then .backtrack else .accept

def consumption (c : Configuration) (holds : Bool) : Effect :=
  if holds then .go c.pc.next (c.position + 1) else .backtrack

def assignment (c : Configuration) (register : BoolRegister) (value : Bool) : Effect :=
  match c.registers.bools[register.index]? with
  | none => .fault .indexOutOfBounds
  | some old =>
    .change { c.advance with registers := c.registers.setBool register value } (.bool register old)

def effect [DecidableEq E] (s : Search E) (c : Configuration) : Operation → Effect
  | .invalid => .fault (.invalidInstruction c.pc)
  | .nop comment =>
    if s.settings.tracing then
      match s.string? comment with
      | .error f => .fault f
      | .ok none => .go c.pc.next c.position
      | .ok (some text) => .say .trace text
    else .go c.pc.next c.position
  | .branch target => .go target c.position
  | .condBranch condition target =>
    match c.registers.bools[condition.index]? with
    | none => .fault .indexOutOfBounds
    | some true => .go target c.position
    | some false => .go c.pc.next c.position
  | .save target => .save target (some c.position)
  | .saveAddress target => .save target none
  | .clear => .drop
  | .clearThrough target => .dropThrough target
  | .restore | .fail => .backtrack
  | .call target =>
    .change { c with pc := target, callStack := c.callStack.push c.pc.next } .call
  | .ret =>
    match c.callStack.pop? with
    | none => s.acceptance c
    | some (address, callStack) => .change { c with pc := address, callStack } (.ret address)
  | .accept => s.acceptance c
  | .abort reason =>
    match s.string? reason with
    | .error f => .fault f
    | .ok text => .abort text
  | .consume distance =>
    match s.remaining c.position with
    | .error f => .fault f
    | .ok left =>
      if distance.index ≤ left then .go c.pc.next (c.position + distance.index) else .backtrack
  | .consumeBy function =>
    match s.program.consumeFunctions[function.index]? with
    | none => .fault .indexOutOfBounds
    | some f =>
      match f s.input ⟨c.position, s.range.stop⟩ with
      | none => .backtrack
      | some position =>
        if c.position ≤ position ∧ position ≤ s.range.stop then .go c.pc.next position
        else .fault (.consumedOutOfRange position ⟨c.position, s.range.stop⟩)
  | .matchElement element =>
    match s.program.elements[element.index]? with
    | none => .fault .indexOutOfBounds
    | some expected => consumption c (s.load c.position = some expected)
  | .matchPredicate predicate =>
    match s.program.predicates[predicate.index]? with
    | none => .fault .indexOutOfBounds
    | some p => consumption c ((s.load c.position).any p)
  | .assertion element condition =>
    match s.program.elements[element.index]? with
    | none => .fault .indexOutOfBounds
    | some expected => assignment c condition (s.load c.position = some expected)
  | .movePosition register =>
    match c.registers.positions[register.index]? with
    | none => .fault .indexOutOfBounds
    | some old =>
      .change { c.advance with registers := c.registers.setPosition register c.position }
        (.position register old)
  | .comparePosition register condition =>
    match c.registers.positions[register.index]? with
    | none => .fault .indexOutOfBounds
    | some position => assignment c condition (position = c.position)
  | .beginCapture register =>
    match c.registers.captures[register.index]? with
    | none => .fault .indexOutOfBounds
    | some _ =>
      .change { c.advance with registers := c.registers.openCapture register c.position }
        (.beginCapture register)
  | .endCapture register =>
    match c.registers.captures[register.index]? with
    | none => .fault .indexOutOfBounds
    | some ⟨[], _⟩ => .fault (.captureNotOpen register)
    | some ⟨start :: _, old⟩ =>
      .change
        { c.advance with registers := c.registers.closeCapture register ⟨start, c.position⟩ }
        (.endCapture register start old)
  | .backreference register =>
    match c.registers.captures[register.index]? with
    | none => .fault .indexOutOfBounds
    | some ⟨_, none⟩ => .backtrack
    | some ⟨_, some captured⟩ =>
      match s.repeats c.position captured with
      | .error f => .fault f
      | .ok true => .go c.pc.next (c.position + captured.length)
      | .ok false => .backtrack
  | .print message =>
    match s.program.strings[message.index]? with
    | none => .fault .indexOutOfBounds
    | some text => .say .debug text

/-- How the machine with the trail obeys. -/
def obey (s : Search E) (m : Machine) : Effect → Step
  | .fault f => .fault f m
  | .go pc position => .next { m with pc, position }
  | .say level text => .next (m.write level text).advance
  | .change c u =>
    .next (({ m with
      pc := c.pc
      position := c.position
      registers := c.registers
      callStack := c.callStack } : Machine).note u)
  | .save resume position => .next (s.pushSavePoint m resume position)
  | .drop =>
    match m.savePoints.pop? with
    | none => .fault .noSavePoint m
    | some (_, savePoints) => .next { m with savePoints }.dropUnusedTrail.advance
  | .dropThrough target =>
    match Machine.clearThrough target m.savePoints with
    | none => .fault (.noSavePointAt target) { m with savePoints := .empty }
    | some savePoints => .next { m with savePoints }.dropUnusedTrail.advance
  | .backtrack => m.backtrack
  | .accept => .next { m with status := .accepted }
  | .abort reason =>
    .next (s.trace { m with abortReason := reason, status := .failed }
      ("aborted: " ++ reason.getD ""))

end Search

variable {E : Type}

/-- Noting a change touches nothing but the trail. -/
theorem Machine.advance_note (m : Machine) (u : Undo) :
    (m.note u).advance = m.advance.note u := by
  by_cases h : m.savePoints.isEmpty = true <;> simp [note, advance, h]

theorem Search.accept_eq_obey (s : Search E) (m : Machine) :
    s.accept m = s.obey m (s.acceptance m.config) := by
  by_cases h : s.settings.mode = .whole ∧ m.config.position ≠ s.range.stop
  · rw [acceptance, if_pos h]; exact if_pos h
  · rw [acceptance, if_neg h]; exact if_neg h

theorem Search.consumeIf_eq_obey (s : Search E) (m : Machine) (holds : Bool) :
    m.consumeIf holds = s.obey m (consumption m.config holds) := by
  cases holds <;> rfl

theorem Search.assign_eq_obey (s : Search E) (m : Machine) (register : BoolRegister)
    (value : Bool) : m.assign register value = s.obey m (assignment m.config register value) := by
  unfold Machine.assign assignment
  cases h : m.registers.bools[register.index]? with
  | none => simp only [Machine.config, h, obey]
  | some old => simp only [Machine.config, h, obey, Machine.advance_note]; rfl

/-- Performing an operation is obeying its effect. -/
theorem Search.perform_eq_obey [DecidableEq E] (s : Search E) (m : Machine) (op : Operation) :
    s.perform m op = s.obey m (s.effect m.config op) := by
  cases op with
  | nop comment =>
    by_cases tracing : s.settings.tracing = true
    · rcases h : s.string? comment with f | _ | text <;> simp only [perform, effect, tracing, h] <;> rfl
    · simp only [perform, effect, tracing]; rfl
  | condBranch condition target =>
    rcases h : m.registers.bools[condition.index]? with _ | _ | _ <;>
      simp only [perform, effect, Machine.config, h] <;> rfl
  | ret =>
    rcases h : m.callStack.pop? with _ | ⟨address, callStack⟩
    · simp only [perform, effect, Machine.config, h]; exact accept_eq_obey s m
    · simp only [perform, effect, Machine.config, h, obey, Machine.note]; split <;> rfl
  | accept => exact accept_eq_obey s m
  | abort reason =>
    rcases h : s.string? reason with f | text <;> simp only [perform, effect, h] <;> rfl
  | consume distance =>
    rcases h : s.remaining m.position with f | left
    · simp only [perform, effect, Machine.config, h]; rfl
    · by_cases enough : distance.index ≤ left <;>
        simp only [perform, effect, Machine.config, h, enough] <;> rfl
  | consumeBy function =>
    rcases h : s.program.consumeFunctions[function.index]? with _ | f
    · simp only [perform, effect, h]; rfl
    · rcases taken : f s.input ⟨m.position, s.range.stop⟩ with _ | position
      · simp only [perform, effect, Machine.config, h, taken]; rfl
      · have taken' : f s.input ⟨m.config.position, s.range.stop⟩ = some position := taken
        by_cases inside : m.config.position ≤ position ∧ position ≤ s.range.stop
        · simp only [perform, effect, h, taken, taken', if_pos inside]; exact if_pos inside
        · simp only [perform, effect, h, taken, taken', if_neg inside]; exact if_neg inside
  | matchElement element =>
    rcases h : s.program.elements[element.index]? with _ | expected
    · simp only [perform, effect, h]; rfl
    · simp only [perform, effect, Machine.config, h]; exact consumeIf_eq_obey s m _
  | matchPredicate predicate =>
    rcases h : s.program.predicates[predicate.index]? with _ | p
    · simp only [perform, effect, h]; rfl
    · simp only [perform, effect, Machine.config, h]; exact consumeIf_eq_obey s m _
  | assertion element condition =>
    rcases h : s.program.elements[element.index]? with _ | expected
    · simp only [perform, effect, h]; rfl
    · simp only [perform, effect, h]; exact assign_eq_obey s m _ _
  | comparePosition register condition =>
    rcases h : m.registers.positions[register.index]? with _ | position
    · simp only [perform, effect, Machine.config, h]; rfl
    · simp only [perform, effect, Machine.config, h]; exact assign_eq_obey s m _ _
  | movePosition register =>
    rcases h : m.registers.positions[register.index]? with _ | old <;>
      simp only [perform, effect, Machine.config, h, Machine.advance_note] <;> rfl
  | beginCapture register =>
    rcases h : m.registers.captures[register.index]? with _ | capture <;>
      simp only [perform, effect, Machine.config, h, Machine.advance_note] <;> rfl
  | endCapture register =>
    rcases h : m.registers.captures[register.index]? with _ | ⟨_ | ⟨start, opened⟩, old⟩ <;>
      simp only [perform, effect, Machine.config, h, Machine.advance_note] <;> rfl
  | backreference register =>
    rcases h : m.registers.captures[register.index]? with _ | ⟨opened, _ | captured⟩
    · simp only [perform, effect, Machine.config, h]; rfl
    · simp only [perform, effect, Machine.config, h]; rfl
    · rcases again : s.repeats m.position captured with f | _ | _ <;>
        simp only [perform, effect, Machine.config, h, again] <;> rfl
  | print message =>
    rcases h : s.program.strings[message.index]? with _ | text <;>
      simp only [perform, effect, h] <;> rfl
  | call target =>
    simp only [perform, effect, Machine.config, obey, Machine.note]
    split <;> rfl
  | _ => rfl

end PatternMachine

import PatternMachine.Machine.Basic
import PatternMachine.Operation

/-!
# Searches

A search is a program set to work on a range of an input. It stays the same while the machine runs.
Elements outside the range are never consumed, but consume functions see them.
-/

namespace PatternMachine

/-- Where a match may end. -/
inductive MatchMode where
  | anywhere
  | whole
  deriving DecidableEq, Repr

def MatchMode.name : MatchMode → String
  | anywhere => "Prefix"
  | whole => "Whole"

structure Settings where
  tracing : Bool := false
  mode : MatchMode := .anywhere
  maxSavePoints : Nat := 1 <<< 20
  cycleLimit : Option Nat := none
  deriving DecidableEq, Repr

structure Search (E : Type) where
  program : Program E
  input : Array E
  range : Span
  settings : Settings

namespace Search

variable {E : Type}

/-- A search over a range, which must lie within the input. -/
def prepare (program : Program E) (input : Array E) (range : Span) (settings : Settings) :
    Except Fault (Search E) :=
  if range.start ≤ range.stop ∧ range.stop ≤ input.size then
    .ok ⟨program, input, range, settings⟩
  else .error (.rangeOutOfBounds range input.size)

/-- The machine before its first cycle. Position registers hold the end of the range. -/
def start (s : Search E) : Machine :=
  { pc := ⟨0⟩
    position := s.range.start
    registers := .initial s.program.registers s.range.stop
    savePoints := .empty
    callStack := .empty
    trail := .empty
    status := .inProgress
    cycles := 0
    abortReason := none
    exceeded := none
    log := #[] }

/-- The element at a position, unless the range ends there. -/
def load (s : Search E) (position : Nat) : Option E :=
  if position < s.range.stop then s.input[position]? else none

/-- The number of elements left behind a position. -/
def remaining (s : Search E) (position : Nat) : Except Fault Nat :=
  if position ≤ s.range.stop then .ok (s.range.stop - position)
  else .error .subtractionOverflow

def slice (s : Search E) (span : Span) : Except Fault (Array E) :=
  if span.start ≤ span.stop ∧ span.stop ≤ s.input.size then
    .ok (s.input.extract span.start span.stop)
  else .error .indexOutOfBounds

/-- Whether the elements of `captured` come again at a position. -/
def repeats [DecidableEq E] (s : Search E) (position : Nat) (captured : Span) :
    Except Fault Bool := do
  if captured.length ≤ (← s.remaining position) then
    let earlier ← s.slice captured
    let current ← s.slice ⟨position, position + captured.length⟩
    return earlier = current
  else return false

/-- Writes a record if tracing is on. -/
def trace (s : Search E) (m : Machine) (text : String) : Machine :=
  if s.settings.tracing then m.write .trace text else m

/-- Ends the run because a limit is exceeded. -/
def halt (s : Search E) (m : Machine) (e : MatchError) : Machine :=
  { s.trace m ("halted: " ++ e.message) with exceeded := some e, status := .failed }

def pushSavePoint (s : Search E) (m : Machine) (resume : Address) (position : Option Nat) :
    Machine :=
  if m.savePoints.depth < s.settings.maxSavePoints then
    { m with
      savePoints := m.savePoints.push ⟨resume, position, m.callStack.depth, m.trail.depth⟩
      pc := m.pc.next }
  else s.halt m (.backtrackLimitExceeded s.settings.maxSavePoints)

/-- In whole mode, accepting anywhere but at the end of the range is a failure. -/
def accept (s : Search E) (m : Machine) : Step :=
  if s.settings.mode = .whole ∧ m.position ≠ s.range.stop then m.backtrack
  else .next { m with status := .accepted }

def string? (s : Search E) : Option StringRegister → Except Fault (Option String)
  | none => .ok none
  | some register =>
    match s.program.strings[register.index]? with
    | some text => .ok (some text)
    | none => .error .indexOutOfBounds

def perform [DecidableEq E] (s : Search E) (m : Machine) : Operation → Step
  | .invalid => .fault (.invalidInstruction m.pc) m
  | .nop comment =>
    if s.settings.tracing then
      match s.string? comment with
      | .error f => .fault f m
      | .ok none => .next m.advance
      | .ok (some text) => .next (m.write .trace text).advance
    else .next m.advance
  | .branch target => .next { m with pc := target }
  | .condBranch condition target =>
    match m.registers.bools[condition.index]? with
    | none => .fault .indexOutOfBounds m
    | some true => .next { m with pc := target }
    | some false => .next m.advance
  | .save target => .next (s.pushSavePoint m target (some m.position))
  | .saveAddress target => .next (s.pushSavePoint m target none)
  | .clear =>
    match m.savePoints.pop? with
    | none => .fault .noSavePoint m
    | some (_, savePoints) => .next { m with savePoints }.dropUnusedTrail.advance
  | .clearThrough target =>
    match Machine.clearThrough target m.savePoints with
    | none => .fault (.noSavePointAt target) { m with savePoints := .empty }
    | some savePoints => .next { m with savePoints }.dropUnusedTrail.advance
  | .restore | .fail => m.backtrack
  | .call target =>
    .next { ({ m with callStack := m.callStack.push m.pc.next }.note .call) with pc := target }
  | .ret =>
    match m.callStack.pop? with
    | none => s.accept m
    | some (address, callStack) =>
      .next { ({ m with callStack }.note (.ret address)) with pc := address }
  | .accept => s.accept m
  | .abort reason =>
    match s.string? reason with
    | .error f => .fault f m
    | .ok abortReason =>
      .next (s.trace { m with abortReason, status := .failed }
        ("aborted: " ++ abortReason.getD ""))
  | .consume distance =>
    match s.remaining m.position with
    | .error f => .fault f m
    | .ok left =>
      if distance.index ≤ left then
        .next { m with position := m.position + distance.index }.advance
      else m.backtrack
  | .consumeBy function =>
    match s.program.consumeFunctions[function.index]? with
    | none => .fault .indexOutOfBounds m
    | some f =>
      let rest : Span := ⟨m.position, s.range.stop⟩
      match f s.input rest with
      | none => m.backtrack
      | some position =>
        if rest.start ≤ position ∧ position ≤ rest.stop then .next { m with position }.advance
        else .fault (.consumedOutOfRange position rest) m
  | .matchElement element =>
    match s.program.elements[element.index]? with
    | none => .fault .indexOutOfBounds m
    | some expected => m.consumeIf (s.load m.position = some expected)
  | .matchPredicate predicate =>
    match s.program.predicates[predicate.index]? with
    | none => .fault .indexOutOfBounds m
    | some p => m.consumeIf ((s.load m.position).any p)
  | .assertion element condition =>
    match s.program.elements[element.index]? with
    | none => .fault .indexOutOfBounds m
    | some expected => m.assign condition (s.load m.position = some expected)
  | .movePosition register =>
    match m.registers.positions[register.index]? with
    | none => .fault .indexOutOfBounds m
    | some old =>
      .next ({ m with registers := m.registers.setPosition register m.position }.note
        (.position register old)).advance
  | .comparePosition register condition =>
    match m.registers.positions[register.index]? with
    | none => .fault .indexOutOfBounds m
    | some position => m.assign condition (position = m.position)
  | .beginCapture register =>
    match m.registers.captures[register.index]? with
    | none => .fault .indexOutOfBounds m
    | some _ =>
      .next ({ m with registers := m.registers.openCapture register m.position }.note
        (.beginCapture register)).advance
  | .endCapture register =>
    match m.registers.captures[register.index]? with
    | none => .fault .indexOutOfBounds m
    | some ⟨[], _⟩ => .fault (.captureNotOpen register) m
    | some ⟨start :: _, old⟩ =>
      .next ({ m with registers := m.registers.closeCapture register ⟨start, m.position⟩ }.note
        (.endCapture register start old)).advance
  | .backreference register =>
    match m.registers.captures[register.index]? with
    | none => .fault .indexOutOfBounds m
    | some ⟨_, none⟩ => m.backtrack
    | some ⟨_, some captured⟩ =>
      match s.repeats m.position captured with
      | .error f => .fault f m
      | .ok true => .next { m with position := m.position + captured.length }.advance
      | .ok false => m.backtrack
  | .print message =>
    match s.program.strings[message.index]? with
    | none => .fault .indexOutOfBounds m
    | some text => .next (m.write .debug text).advance

/-- What must hold before every cycle. -/
def check (s : Search E) (m : Machine) : Option Fault :=
  if m.status ≠ .inProgress then some .alreadyHalted
  else if m.position < s.range.start ∨ s.range.stop < m.position then
    some (.positionOutOfRange m.position s.range)
  else
    match m.savePoints.top? with
    | none => none
    | some sp =>
      if sp.trailEnd ≤ m.trail.depth then none
      else some (.trailTooShort sp.trailEnd m.trail.depth)

/-- The error of a machine that has used up its cycles. -/
def cyclesUsedUp (s : Search E) (cycles : Nat) : Option MatchError :=
  match s.settings.cycleLimit with
  | some limit => if limit ≤ cycles then some (.cycleLimitExceeded limit) else none
  | none => none

/-- The text of an instruction together with what there is around it. -/
def announcement (i : Instruction) (pc position savePoints callDepth : Nat) :
    Except Fault String := do
  let text ← i.text
  return "[" ++ toString pc ++ "] pos=" ++ toString position ++ " " ++ text ++
    " (save points: " ++ toString savePoints ++ ", call depth: " ++ toString callDepth ++ ")"

/-- The trace of an instruction, written before it is executed. -/
def announce (s : Search E) (m : Machine) (i : Instruction) : Except Fault Machine :=
  if s.settings.tracing then do
    return m.write .trace
      (← announcement i m.pc.index m.position m.savePoints.depth m.callStack.depth)
  else .ok m

/-- One cycle. What is done with the instruction that comes next, once it has been announced, is up to
`execute`. -/
def cycleWith (s : Search E) (execute : Instruction → Machine → Step) (m : Machine) : Step :=
  match s.check m with
  | some f => .fault f m
  | none =>
    match s.cyclesUsedUp m.cycles with
    | some e => .next (s.halt m e)
    | none =>
      match s.program.code[m.pc.index]? with
      | none => .fault (.pastEnd m.pc) m
      | some i =>
        match s.announce m i with
        | .error f => .fault f m
        | .ok m => execute i m

/-- Executes one instruction. -/
def cycle [DecidableEq E] (s : Search E) : Machine → Step :=
  s.cycleWith fun i m =>
    let m := { m with cycles := m.cycles + 1 }
    match i.decode with
    | .error f => .fault f m
    | .ok operation => s.perform m operation

/-- The cycle of a machine whose counter of cycles is full. No instruction can be counted any more. -/
def lastCycle (s : Search E) : Machine → Step :=
  s.cycleWith fun _ m => .fault .additionOverflow m

/-- At most `n` cycles, fewer if the machine halts. -/
def runFor [DecidableEq E] (s : Search E) : Nat → Machine → Step
  | 0, m => .next m
  | n + 1, m =>
    if m.status = .inProgress then
      match s.cycle m with
      | .next m => s.runFor n m
      | .fault f m => .fault f m
    else .next m

/-- The number of cycles that a 64-bit counter can count. -/
def countableCycles : Nat := UInt64.size - 1

/-- Runs until the machine halts; the counter of cycles must not overflow before. -/
def run [DecidableEq E] (s : Search E) (m : Machine) : Step :=
  match s.runFor countableCycles m with
  | .next m => if m.status = .inProgress then s.lastCycle m else .next m
  | .fault f m => .fault f m

end Search

end PatternMachine

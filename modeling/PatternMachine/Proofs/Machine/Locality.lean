import PatternMachine.Proofs.Engine
import PatternMachine.Proofs.Machine.Positions
import PatternMachine.Proofs.Machine.Shift

/-! Nothing outside the range matters. A search that sees more elements before and behind its input goes
through the same states at another place, cycle by cycle. -/
namespace PatternMachine

/-- A consumer takes the same from every position of a range, whatever is before and behind the input. -/
def ConsumeFunction.Commutes {E : Type} (f : ConsumeFunction E) (pre input post : Array E) (range : Span) :
    Prop :=
  ∀ position, range.start ≤ position → position ≤ range.stop →
    f (pre ++ input ++ post) ⟨pre.size + position, pre.size + range.stop⟩ =
      (f input ⟨position, range.stop⟩).map (pre.size + ·)

/-- This holds of the consumers that instructions of the program refer to, and of every program without such
instructions. -/
def Program.Commutes {E : Type} (p : Program E) (pre input post : Array E) (range : Span) : Prop :=
  ∀ i ∈ p.code, ∀ function, i.decode = .ok (.consumeBy function) →
    ∀ f, p.consumeFunctions[function.index]? = some f → ConsumeFunction.Commutes f pre input post range

theorem Program.commutes_of_no_consumers {E : Type} {p : Program E}
    (none : ∀ i ∈ p.code, ∀ function, i.decode ≠ .ok (.consumeBy function)) (pre input post : Array E)
    (range : Span) : p.Commutes pre input post range :=
  fun i member function decoded => absurd decoded (none i member function)

namespace Search

variable {E : Type} {s : Search E} {c : Configuration} {pre post : Array E}

/-- The same search with more elements before and behind its input. -/
def surround (s : Search E) (pre post : Array E) : Search E :=
  { s with input := pre ++ s.input ++ post, range := s.range.shift pre.size }

/-! ### What a search sees -/

theorem getElem?_surround (pre post : Array E) {mid : Array E} {i : Nat} (inside : i < mid.size) :
    (pre ++ mid ++ post)[pre.size + i]? = mid[i]? := by
  rw [Array.getElem?_append, if_pos (by rw [Array.size_append]; omega), Array.getElem?_append,
    if_neg (by omega), Nat.add_sub_cancel_left]

theorem extract_surround (pre post : Array E) {mid : Array E} {start stop : Nat} (inside : stop ≤ mid.size) :
    (pre ++ mid ++ post).extract (pre.size + start) (pre.size + stop) = mid.extract start stop := by
  apply Array.ext_getElem?
  intro i
  have size : (pre ++ mid ++ post).size = pre.size + mid.size + post.size := by
    rw [Array.size_append, Array.size_append]
  rw [Array.getElem?_extract, Array.getElem?_extract, size]
  by_cases within : i < stop - start
  · rw [if_pos (by omega), if_pos (by omega), Nat.add_assoc, getElem?_surround pre post (by omega)]
  · rw [if_neg (by omega), if_neg (by omega)]

theorem load_surround (valid : s.range.stop ≤ s.input.size) (position : Nat) :
    (s.surround pre post).load (pre.size + position) = s.load position := by
  unfold load
  by_cases inside : position < s.range.stop
  · have moved : pre.size + position < (s.surround pre post).range.stop := Nat.add_lt_add_left inside _
    rw [if_pos inside, if_pos moved]
    exact getElem?_surround pre post (Nat.lt_of_lt_of_le inside valid)
  · have moved : ¬pre.size + position < (s.surround pre post).range.stop :=
      fun lt => inside (Nat.lt_of_add_lt_add_left lt)
    rw [if_neg inside, if_neg moved]

theorem remaining_surround (position : Nat) :
    (s.surround pre post).remaining (pre.size + position) = s.remaining position := by
  unfold remaining
  by_cases inside : position ≤ s.range.stop
  · have moved : pre.size + position ≤ (s.surround pre post).range.stop := Nat.add_le_add_left inside _
    rw [if_pos inside, if_pos moved]
    exact congrArg Except.ok (Nat.add_sub_add_left _ _ _)
  · have moved : ¬pre.size + position ≤ (s.surround pre post).range.stop :=
      fun le => inside (Nat.le_of_add_le_add_left le)
    rw [if_neg inside, if_neg moved]

theorem slice_surround {span : Span} (ordered : span.start ≤ span.stop) (inside : span.stop ≤ s.input.size) :
    (s.surround pre post).slice (span.shift pre.size) = s.slice span := by
  have size : (s.surround pre post).input.size = pre.size + s.input.size + post.size := by
    rw [surround, Array.size_append, Array.size_append]
  have moved : (span.shift pre.size).start ≤ (span.shift pre.size).stop ∧
      (span.shift pre.size).stop ≤ (s.surround pre post).input.size := by
    rw [size]
    simp only [Span.shift]
    omega
  have here : s.slice span = .ok (s.input.extract span.start span.stop) := if_pos ⟨ordered, inside⟩
  rw [here]
  exact (if_pos moved).trans (congrArg Except.ok (extract_surround pre post inside))

/-- What a backreference compares lies within the range. -/
theorem repeats_surround [DecidableEq E] (within : c.Within s) (valid : s.range.stop ≤ s.input.size)
    {captured : Span} (ordered : captured.start ≤ captured.stop) (le : captured.stop ≤ c.position) :
    (s.surround pre post).repeats (pre.size + c.position) (captured.shift pre.size) =
      s.repeats c.position captured := by
  have stop := within.inside.2
  unfold repeats
  rw [remaining_surround, Span.length_shift, remaining_ok within.inside, ok_bind, ok_bind]
  by_cases enough : captured.length ≤ s.range.stop - c.position
  · have current : (⟨pre.size + c.position, pre.size + c.position + captured.length⟩ : Span) =
        (⟨c.position, c.position + captured.length⟩ : Span).shift pre.size := by
      rw [Span.shift, Nat.add_assoc]
    have earlier : captured.stop ≤ s.input.size := by omega
    have inside : c.position + captured.length ≤ s.input.size := by omega
    rw [if_pos enough, if_pos enough, current, slice_surround ordered earlier,
      slice_surround (Nat.le_add_right _ _) inside]
  · rw [if_neg enough, if_neg enough]

/-! ### What a search does -/

theorem acceptance_surround (c : Configuration) :
    (s.surround pre post).acceptance (c.shift pre.size) = (s.acceptance c).shift pre.size := by
  have atEnd : pre.size + c.position ≠ (s.surround pre post).range.stop ↔ c.position ≠ s.range.stop := by
    simp [surround, Span.shift]
  unfold acceptance
  by_cases early : s.settings.mode = .whole ∧ c.position ≠ s.range.stop
  · rw [if_pos early]
    exact if_pos ⟨early.1, atEnd.mpr early.2⟩
  · rw [if_neg early]
    exact if_neg fun moved => early ⟨moved.1, atEnd.mp moved.2⟩

theorem assignment_shift (k : Nat) (c : Configuration) (register : BoolRegister) (value : Bool) :
    assignment (c.shift k) register value = (assignment c register value).shift k := by
  have bools : (c.shift k).registers.bools = c.registers.bools := rfl
  unfold assignment
  rw [bools]
  cases c.registers.bools[register.index]? <;> rfl

theorem consumption_shift (k : Nat) (c : Configuration) (holds : Bool) :
    consumption (c.shift k) holds = (consumption c holds).shift k := by
  cases holds <;> rfl

/-- An operation has the same effect at the other place. -/
theorem effect_surround [DecidableEq E] (within : c.Within s) (valid : s.range.stop ≤ s.input.size)
    (op : Operation)
    (takes : ∀ function, op = .consumeBy function → ∀ f,
      s.program.consumeFunctions[function.index]? = some f →
        ConsumeFunction.Commutes f pre s.input post s.range) :
    (s.surround pre post).effect (c.shift pre.size) op = (s.effect c op).shift pre.size := by
  have program : (s.surround pre post).program = s.program := rfl
  have position : (c.shift pre.size).position = pre.size + c.position := rfl
  have bools : (c.shift pre.size).registers.bools = c.registers.bools := rfl
  have positions (i : Nat) : (c.shift pre.size).registers.positions[i]? =
      c.registers.positions[i]?.map (pre.size + ·) := Array.getElem?_map
  have captures (i : Nat) : (c.shift pre.size).registers.captures[i]? =
      c.registers.captures[i]?.map (Capture.shift pre.size) := Array.getElem?_map
  have calls : (c.shift pre.size).callStack = c.callStack := rfl
  cases op with
  | nop comment =>
    have settings : (s.surround pre post).settings = s.settings := rfl
    have string : (s.surround pre post).string? comment = s.string? comment := rfl
    simp only [effect, settings, string]
    split
    · rcases known : s.string? comment with f | _ | text
      · cases string?_error known; rfl
      · rfl
      · rfl
    · rfl
  | condBranch condition target =>
    simp only [effect, bools]
    rcases c.registers.bools[condition.index]? with _ | _ | _ <;> rfl
  | ret =>
    simp only [effect, calls]
    cases c.callStack.pop? with
    | none => exact acceptance_surround c
    | some top => rfl
  | accept => exact acceptance_surround c
  | abort reason =>
    have string : (s.surround pre post).string? reason = s.string? reason := rfl
    simp only [effect, string]
    rcases known : s.string? reason with f | text
    · cases string?_error known; rfl
    · rfl
  | consume distance =>
    simp only [effect, position, remaining_surround, remaining_ok within.inside]
    split
    · exact congrArg (Effect.go _) (Nat.add_assoc _ _ _)
    · rfl
  | consumeBy function =>
    simp only [effect, program, position]
    cases known : s.program.consumeFunctions[function.index]? with
    | none => rfl
    | some f =>
      have taken : f (s.surround pre post).input
          ⟨pre.size + c.position, (s.surround pre post).range.stop⟩ =
            (f s.input ⟨c.position, s.range.stop⟩).map (pre.size + ·) :=
        takes function rfl f known c.position within.inside.1 within.inside.2
      simp only [taken]
      cases f s.input ⟨c.position, s.range.stop⟩ with
      | none => rfl
      | some next =>
        by_cases inside : c.position ≤ next ∧ next ≤ s.range.stop
        · have moved : pre.size + c.position ≤ pre.size + next ∧
              pre.size + next ≤ (s.surround pre post).range.stop :=
            ⟨Nat.add_le_add_left inside.1 _, Nat.add_le_add_left inside.2 _⟩
          dsimp only
          rw [if_pos inside]
          exact if_pos moved
        · have moved : ¬(pre.size + c.position ≤ pre.size + next ∧
              pre.size + next ≤ (s.surround pre post).range.stop) :=
            fun moved => inside
              ⟨Nat.le_of_add_le_add_left moved.1, Nat.le_of_add_le_add_left moved.2⟩
          dsimp only
          rw [if_neg inside]
          exact if_neg moved
  | matchElement element =>
    simp only [effect, program, position, load_surround valid]
    cases s.program.elements[element.index]? with
    | none => rfl
    | some expected => exact consumption_shift _ c _
  | matchPredicate predicate =>
    simp only [effect, program, position, load_surround valid]
    cases s.program.predicates[predicate.index]? with
    | none => rfl
    | some p => exact consumption_shift _ c _
  | assertion element condition =>
    simp only [effect, program, position, load_surround valid]
    cases s.program.elements[element.index]? with
    | none => rfl
    | some expected => exact assignment_shift _ c condition _
  | movePosition register =>
    simp only [effect, positions, position]
    cases c.registers.positions[register.index]? with
    | none => rfl
    | some old =>
      have moved := c.registers.setPosition_shift (k := pre.size) register c.position
      exact congrArg (fun registers => Effect.change
        { c.advance.shift pre.size with registers } (.position register (pre.size + old))) moved.symm
  | comparePosition register condition =>
    simp only [effect, positions, position]
    cases c.registers.positions[register.index]? with
    | none => rfl
    | some old =>
      have same : (pre.size + old = pre.size + c.position) = (old = c.position) := by simp
      simp only [Option.map_some, same]
      exact assignment_shift _ c condition _
  | beginCapture register =>
    simp only [effect, captures, position]
    cases c.registers.captures[register.index]? with
    | none => rfl
    | some capture =>
      have moved := c.registers.openCapture_shift (k := pre.size) register c.position
      exact congrArg (fun registers => Effect.change
        { c.advance.shift pre.size with registers } (.beginCapture register)) moved.symm
  | endCapture register =>
    simp only [effect, captures, position]
    rcases c.registers.captures[register.index]? with _ | ⟨_ | ⟨start, opened⟩, old⟩
    · rfl
    · rfl
    · have moved := c.registers.closeCapture_shift (k := pre.size) register ⟨start, c.position⟩
      exact congrArg (fun registers => Effect.change { c.advance.shift pre.size with registers }
        (.endCapture register (pre.size + start) (old.map (Span.shift pre.size)))) moved.symm
  | backreference register =>
    simp only [effect, captures, position]
    rcases known : c.registers.captures[register.index]? with _ | ⟨opened, _ | captured⟩
    · rfl
    · rfl
    · obtain ⟨-, ordered, le⟩ := within.registers.values _ _ captured known rfl
      have again : (s.surround pre post).repeats (pre.size + c.position) (captured.shift pre.size) = _ :=
        repeats_surround within valid ordered le
      obtain ⟨holds, compared⟩ := repeats_ok within valid known rfl
      simp only [Option.map_some, Capture.shift, again, compared, Span.length_shift]
      cases holds
      · rfl
      · exact congrArg (Effect.go _) (Nat.add_assoc _ _ _)
  | print message =>
    simp only [effect, program]
    cases s.program.strings[message.index]? <;> rfl
  | _ => rfl

/-! ### Cycles and runs -/

variable {m : Machine}

theorem start_surround (s : Search E) (pre post : Array E) :
    (s.surround pre post).start = s.start.shift pre.size #[] := by
  have registers := Registers.initial_shift (k := pre.size) s.program.registers s.range.stop
  simp only [start, Machine.shift, registers]
  rfl

theorem check_surround (s : Search E) (pre post : Array E) (m : Machine) (log : Log) :
    (s.surround pre post).check (m.shift pre.size log) = (s.check m).map (Fault.shift pre.size) := by
  have status : (m.shift pre.size log).status = m.status := rfl
  have outside : ((m.shift pre.size log).position < (s.surround pre post).range.start ∨
      (s.surround pre post).range.stop < (m.shift pre.size log).position) ↔
      (m.position < s.range.start ∨ s.range.stop < m.position) := by
    simp [surround, Machine.shift, Span.shift]
  have top : (m.shift pre.size log).savePoints.top? = m.savePoints.top?.map (SavePoint.shift pre.size) :=
    Stack.top?_map _ _
  have depth : (m.shift pre.size log).trail.depth = m.trail.depth := rfl
  unfold check
  rw [status, top, depth]
  simp only [outside]
  split
  · rfl
  split
  · rfl
  cases m.savePoints.top? with
  | none => rfl
  | some sp =>
    have trailEnd : (sp.shift pre.size).trailEnd = sp.trailEnd := rfl
    simp only [Option.map_some, trailEnd]
    split <;> rfl

theorem lastCycle_surround (s : Search E) (pre post : Array E) (m : Machine) (log : Log) :
    ∃ log', (s.surround pre post).lastCycle (m.shift pre.size log) =
      (s.lastCycle m).shift pre.size log' := by
  have used : (s.surround pre post).cyclesUsedUp (m.shift pre.size log).cycles = s.cyclesUsedUp m.cycles := rfl
  have fetched : (s.surround pre post).program.code[(m.shift pre.size log).pc.index]? =
      s.program.code[m.pc.index]? := rfl
  unfold lastCycle cycleWith
  rw [check_surround, used, fetched]
  cases s.check m with
  | some f => exact ⟨log, rfl⟩
  | none =>
    cases s.cyclesUsedUp m.cycles with
    | some e =>
      obtain ⟨log', halted⟩ := s.halt_shift (s.surround pre post) (k := pre.size) m e log
      exact ⟨log', congrArg Step.next halted⟩
    | none =>
      cases s.program.code[m.pc.index]? with
      | none => exact ⟨log, rfl⟩
      | some i =>
        have settings : (s.surround pre post).settings = s.settings := rfl
        rcases announce_shift (k := pre.size) settings m i log with
          ⟨f, left, right⟩ | ⟨m', log', left, right⟩
        · have fault : f.shift pre.size = f := Fault.shift_ofWord (announce_fault left) _
          simp only [left, right, Step.shift, fault]
          exact ⟨log, rfl⟩
        · simp only [left, right]
          exact ⟨log', rfl⟩

section

variable [DecidableEq E]

theorem turn_surround (within : m.config.Within s) (valid : s.range.stop ≤ s.input.size)
    (commutes : s.program.Commutes pre s.input post s.range) (log : Log) :
    ∃ log', (s.surround pre post).turn (m.shift pre.size log) = (s.turn m).shift pre.size log' := by
  have settings : (s.surround pre post).settings = s.settings := rfl
  rcases fetch_shift (k := pre.size) settings rfl m log with
    ⟨f, m', log', left, right⟩ | ⟨m', op, log', left, right⟩
  · have fault : f.shift pre.size = f := by
      rcases fetch_fault left with word | rfl
      · exact Fault.shift_ofWord word _
      · rfl
    refine ⟨log', ?_⟩
    rw [turn_of_error left, turn_of_error right, Step.shift, fault]
  · obtain ⟨before, rfl⟩ := fetch_eq left
    obtain ⟨i, known, decoded⟩ := fetch_decode left
    have effect := effect_surround within valid op fun function eq =>
      commutes i (Array.mem_of_getElem? known) function (eq ▸ decoded)
    obtain ⟨log'', obeyed⟩ := obey_shift (k := pre.size) settings
      { m with log := before, cycles := m.cycles + 1 } (s.effect m.config op) log'
    rw [turn_of_ok left]
    refine ⟨log'', Eq.trans ?_ obeyed⟩
    rw [← effect]
    exact turn_of_ok (s := s.surround pre post) right

theorem cycle_surround (within : m.config.Within s) (valid : s.range.stop ≤ s.input.size)
    (commutes : s.program.Commutes pre s.input post s.range) (log : Log) :
    ∃ log', (s.surround pre post).cycle (m.shift pre.size log) = (s.cycle m).shift pre.size log' := by
  have used : (s.surround pre post).cyclesUsedUp (m.shift pre.size log).cycles = s.cyclesUsedUp m.cycles := rfl
  rw [cycle_eq, cycle_eq, check_surround, used]
  cases s.check m with
  | some f => exact ⟨log, rfl⟩
  | none =>
    cases s.cyclesUsedUp m.cycles with
    | some e =>
      obtain ⟨log', halted⟩ := s.halt_shift (s.surround pre post) (k := pre.size) m e log
      exact ⟨log', congrArg Step.next halted⟩
    | none => exact turn_surround within valid commutes log

/-- A run goes through the same states at the other place. -/
theorem runFor_surround (ordered : s.range.start ≤ s.range.stop) (valid : s.range.stop ≤ s.input.size)
    (commutes : s.program.Commutes pre s.input post s.range) (n : Nat) :
    ∃ log, (s.surround pre post).runFor n (s.surround pre post).start =
      (s.runFor n s.start).shift pre.size log := by
  induction n with
  | zero => exact ⟨#[], congrArg Step.next (s.start_surround pre post)⟩
  | succ n ih =>
    obtain ⟨log, same⟩ := ih
    rw [runFor_succ, runFor_succ, same]
    cases ran : s.runFor n s.start with
    | fault f m => exact ⟨log, rfl⟩
    | next m =>
      by_cases live : m.status = .inProgress
      · obtain ⟨r, tracks, within⟩ := runFor_within ordered ran
        obtain ⟨log', cycled⟩ := cycle_surround (within.at tracks) valid commutes log
        have moved : (m.shift pre.size log).status = .inProgress := live
        rw [Step.thenBy_live live]
        exact ⟨log', (Step.thenBy_live moved).trans cycled⟩
      · have moved : (m.shift pre.size log).status ≠ .inProgress := live
        rw [Step.thenBy_halted live]
        exact ⟨log, Step.thenBy_halted moved⟩

theorem run_surround (ordered : s.range.start ≤ s.range.stop) (valid : s.range.stop ≤ s.input.size)
    (commutes : s.program.Commutes pre s.input post s.range) :
    ∃ log, (s.surround pre post).run (s.surround pre post).start =
      (s.run s.start).shift pre.size log := by
  obtain ⟨log, same⟩ := runFor_surround ordered valid commutes countableCycles
  unfold run
  rw [same]
  cases s.runFor countableCycles s.start with
  | fault f m => exact ⟨log, rfl⟩
  | next m =>
    have status : (m.shift pre.size log).status = m.status := rfl
    simp only [Step.shift, status]
    split
    · exact s.lastCycle_surround pre post m log
    · exact ⟨log, rfl⟩

end

end Search

/-! ### What is found at another place -/

def Match.shift (k : Nat) (m : Match) : Match :=
  ⟨m.range.shift k, m.captures.map (Option.map (Span.shift k))⟩

/-- The same answer about another place. -/
def Answer.shift (k : Nat) :
    Except Fault (Except MatchError (Option Match)) → Except Fault (Except MatchError (Option Match))
  | .error f => .error (f.shift k)
  | .ok (.error e) => .ok (.error e)
  | .ok (.ok found) => .ok (.ok (found.map (Match.shift k)))

theorem Step.answer_shift (k : Nat) (log : Log) (x : Step) (start : Nat) :
    (x.shift k log).answer (k + start) = Answer.shift k (x.answer start) := by
  cases x with
  | fault f m => rfl
  | next m =>
    have captures : (m.shift k log).captures = m.captures.map (Option.map (Span.shift k)) := by
      simp only [Machine.captures, Machine.shift, Registers.shift, Array.toList_map, List.map_map]
      rfl
    have exceeded : (m.shift k log).exceeded = m.exceeded := rfl
    have status : (m.shift k log).status = m.status := rfl
    simp only [Step.shift, answer, Machine.answer, captures, exceeded, status]
    cases m.exceeded with
    | some e => rfl
    | none => by_cases accepted : m.status = .accepted <;> simp only [accepted] <;> rfl

/-- A search in a part of the input goes through the states of a search in that part alone, shifted by where
the part begins. So it comes to the same. -/
theorem matching_is_local {E : Type} [DecidableEq E] [Spelled E] (e : Engine E) (mode : MatchMode)
    (pre mid post : Array E) (commutes : e.program.Commutes pre mid post ⟨0, mid.size⟩) :
    ∃ inner outer : Search E,
      e.search mid ⟨0, mid.size⟩ mode = .ok inner ∧
      e.search (pre ++ mid ++ post) ⟨pre.size, pre.size + mid.size⟩ mode = .ok outer ∧
      (∀ n, ∃ log, outer.runFor n outer.start = (inner.runFor n inner.start).shift pre.size log) ∧
      e.verdict (pre ++ mid ++ post) ⟨pre.size, pre.size + mid.size⟩ mode =
        Answer.shift pre.size (e.verdict mid ⟨0, mid.size⟩ mode) := by
  let inner : Search E := ⟨e.program, mid, ⟨0, mid.size⟩, { e.settings with mode }⟩
  have ordered : inner.range.start ≤ inner.range.stop := Nat.zero_le _
  have valid : inner.range.stop ≤ inner.input.size := Nat.le_refl _
  have moved : pre.size ≤ pre.size + mid.size ∧ pre.size + mid.size ≤ (pre ++ mid ++ post).size := by
    rw [Array.size_append, Array.size_append]
    omega
  refine ⟨inner, inner.surround pre post, if_pos ⟨ordered, valid⟩, if_pos moved,
    Search.runFor_surround ordered valid commutes, ?_⟩
  obtain ⟨log, same⟩ : ∃ log, (inner.surround pre post).run (inner.surround pre post).start =
      (inner.run inner.start).shift pre.size log := Search.run_surround ordered valid commutes
  have answer := Step.answer_shift pre.size log (inner.run inner.start) 0
  rw [e.verdict_eq ⟨ordered, valid⟩ mode, ← answer, ← same]
  exact e.verdict_eq moved mode

/-- A group and a reference to it, without a custom consumer and with one. -/
theorem matching_is_local_repeated :
    ∃ plain custom : Engine Nat,
      plain.verdict #[1, 2, 7, 7, 7] ⟨2, 4⟩ .whole = .ok (.ok (some ⟨⟨2, 4⟩, [some ⟨2, 3⟩]⟩)) ∧
      custom.verdict #[1, 2, 7, 7, 7] ⟨2, 4⟩ .whole = .ok (.ok (some ⟨⟨2, 4⟩, [some ⟨2, 3⟩]⟩)) := by
  let one : ConsumeFunction Nat := fun _ rest =>
    if rest.start < rest.stop then some (rest.start + 1) else none
  let program (take : Except Fault Instruction) : Program Nat :=
    ⟨(([Instruction.beginCapture ⟨0⟩, take, Instruction.endCapture ⟨0⟩, Instruction.backreference ⟨0⟩,
      Instruction.accept] : List (Except Fault Instruction)).filterMap Except.toOption).toArray,
      #[], #[], #[], #[one], ⟨0, 0, 0, 0, 1, 0, 1⟩⟩
  let plain : Engine Nat := { program := program (Instruction.consume ⟨1⟩) }
  let custom : Engine Nat := { program := program (Instruction.consumeBy ⟨0⟩) }
  have found : ∀ e ∈ [plain, custom],
      ((e.verdict #[7, 7] ⟨0, 2⟩ .whole).toOption.bind Except.toOption) =
        some (some ⟨⟨0, 2⟩, [some ⟨0, 1⟩]⟩) := by decide +kernel
  have moved (e : Engine Nat) (known : e ∈ [plain, custom])
      (commutes : e.program.Commutes #[1, 2] #[7, 7] #[7] ⟨0, 2⟩) :
      e.verdict #[1, 2, 7, 7, 7] ⟨2, 4⟩ .whole = .ok (.ok (some ⟨⟨2, 4⟩, [some ⟨2, 3⟩]⟩)) := by
    obtain ⟨-, -, -, -, -, said⟩ := matching_is_local e .whole #[1, 2] #[7, 7] #[7] commutes
    exact said.trans (congrArg (Answer.shift 2) (eq_ok_ok (found e known)))
  refine ⟨plain, custom, moved plain List.mem_cons_self (Program.commutes_of_no_consumers ?_ _ _ _ _),
    moved custom (List.mem_cons_of_mem _ List.mem_cons_self) ?_⟩
  · have others : ∀ i ∈ plain.program.code, i.decode.toOption.map (fun
        | .consumeBy _ => true
        | _ => false) ≠ some true := by decide +kernel
    exact fun i member function decoded => others i member (by rw [decoded]; rfl)
  · intro i _ function _ f known position _ _
    obtain rfl : f = one := Array.mem_singleton.mp (Array.mem_of_getElem? known)
    change one #[1, 2, 7, 7, 7] ⟨2 + position, 4⟩ = (one #[7, 7] ⟨position, 2⟩).map (2 + ·)
    by_cases inside : position < 2
    · have here : one #[7, 7] ⟨position, 2⟩ = some (position + 1) := if_pos inside
      rw [here]
      exact if_pos (Nat.add_lt_add_left inside 2)
    · have here : one #[7, 7] ⟨position, 2⟩ = none := if_neg inside
      rw [here]
      exact if_neg fun lt => inside (Nat.lt_of_add_lt_add_left lt)

end PatternMachine

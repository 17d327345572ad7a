import PatternMachine.Instruction.Forms
import PatternMachine.Proofs.Engine
import PatternMachine.Proofs.Machine.Bounds
import PatternMachine.Proofs.Machine.Cycle
import PatternMachine.Proofs.Machine.TrailFaults

/-! Wherever a search gets to, its position is in the range, the save points lie in order below it, and
every capture lies between the start of the range and the position. The bounds are those of the thread;
that a machine which halts stays where it was extends them to the end of a run. -/
namespace PatternMachine

/-! ### Halting does not move a machine -/

namespace Search

variable {E : Type} {s : Search E} {r r' : SnapshotMachine}

theorem copyingHalt_thread (e : MatchError) : (s.copyingHalt r e).thread = r.thread := by
  obtain ⟨log, eq⟩ := s.copyingTrace_eq r ("halted: " ++ e.message)
  unfold copyingHalt
  rw [eq]
  rfl

theorem copyingObey_thread {e : Effect} (obeyed : s.copyingObey r e = .next r') :
    r.thread.obey e = .next r'.thread ∨ r'.thread = r.thread := by
  cases e with
  | fault f => cases obeyed
  | go pc position => cases obeyed; exact .inl rfl
  | say level text => cases obeyed; exact .inl rfl
  | change c u => cases obeyed; exact .inl rfl
  | accept => cases obeyed; exact .inr rfl
  | save resume position =>
    cases obeyed
    unfold pushCopy
    split
    · exact .inl rfl
    · exact .inr (copyingHalt_thread _)
  | drop =>
    simp only [copyingObey] at obeyed
    split at obeyed
    · cases obeyed
    next saved =>
      cases obeyed
      exact .inl (by simp only [Thread.obey, SnapshotMachine.thread, saved]; rfl)
  | dropThrough target =>
    simp only [copyingObey] at obeyed
    split at obeyed
    · cases obeyed
    next dropped =>
      cases obeyed
      exact .inl (by simp only [Thread.obey, SnapshotMachine.thread, dropped]; rfl)
  | backtrack =>
    cases obeyed
    cases saved : r.savePoints with
    | nil =>
      rw [SnapshotMachine.backtrack_nil saved]
      exact .inr rfl
    | cons sn rest =>
      rw [SnapshotMachine.backtrack_cons saved]
      exact .inl (by simp only [Thread.obey, SnapshotMachine.thread, saved]; rfl)
  | abort reason =>
    cases obeyed
    obtain ⟨log, eq⟩ := s.copyingTrace_eq { r with abortReason := reason, status := .failed }
      ("aborted: " ++ reason.getD "")
    rw [eq]
    exact .inr rfl

variable [DecidableEq E]

/-- A cycle moves the thread, or leaves it where it is. -/
theorem copyingCycle_thread (cycled : s.copyingCycle r = .next r') :
    s.move r.thread = .next r'.thread ∨ r'.thread = r.thread := by
  unfold copyingCycle at cycled
  split at cycled
  · cases cycled
  split at cycled
  · cases cycled
  next within =>
    have inside : s.Inside r.thread.config.position := by
      simp only [Inside, SnapshotMachine.thread]
      omega
    split at cycled
    · cases cycled
      exact .inr (copyingHalt_thread _)
    split at cycled
    · cases cycled
    next i fetched =>
      cases decoded : i.decode with
      | error f =>
        simp only [decoded] at cycled
        split at cycled <;> cases cycled
      | ok op =>
        have known : s.program.operation? r.thread.config.pc.index = some op := by
          simp [Program.operation?, SnapshotMachine.thread, fetched, decoded, Except.toOption]
        obtain ⟨log, announced⟩ := copyingAnnounce_eq (s := s) decoded r
        simp only [announced, decoded] at cycled
        rw [move_of_operation inside known]
        exact copyingObey_thread (r := { r with log, cycles := r.cycles + 1 }) cycled

theorem copyingCycle_within (within : r.thread.Within s) (cycled : s.copyingCycle r = .next r') :
    r'.thread.Within s := by
  rcases copyingCycle_thread cycled with moved | stays
  · exact within.move moved
  · exact stays ▸ within

theorem copyingRunFor_within {n : Nat} (within : r.thread.Within s)
    (ran : s.copyingRunFor n r = .next r') : r'.thread.Within s := by
  induction n generalizing r with
  | zero => cases ran; exact within
  | succ n ih =>
    unfold copyingRunFor at ran
    split at ran
    · split at ran
      next cycled => exact ih (copyingCycle_within within cycled) ran
      · cases ran
    · cases ran; exact within

end Search

/-! ### The order of the save points -/

/-- The entries noted above a save point come after those noted above the ones below it. -/
theorem Restores.trailEnds {k : Mutable} {trail : List Undo} {saved : List SavePoint}
    {copies : List Snapshot} (h : Restores k trail saved copies) :
    saved.Pairwise (fun upper lower => lower.trailEnd ≤ upper.trailEnd) ∧
      ∀ sp ∈ saved, sp.trailEnd ≤ trail.length := by
  induction h with
  | none => exact ⟨.nil, nofun⟩
  | @some k newer older sp sn saved copies _ _ _ trailEnd _ _ ih =>
    obtain ⟨ordered, below⟩ := ih
    refine ⟨ordered.cons fun lower member => trailEnd ▸ below lower member, fun lower member => ?_⟩
    rw [List.length_append]
    rcases List.mem_cons.mp member with rfl | member
    · omega
    · have := below lower member
      omega

/-- Positions that are saved do not go back on the way up. -/
theorem SavedWithin.positions {E : Type} {s : Search E} {saved : List Snapshot} {high : Nat}
    (h : SavedWithin s saved high) :
    (saved.filterMap (·.position)).Pairwise (fun upper lower => lower ≤ upper) ∧
      ∀ q ∈ saved.filterMap (·.position), q ≤ high := by
  induction saved generalizing high with
  | nil => exact ⟨.nil, nofun⟩
  | cons sn saved ih =>
    obtain ⟨q, below, position, -, rest⟩ := h
    obtain ⟨ordered, bounded⟩ := ih rest
    rcases position with none | some
    · rw [List.filterMap_cons_none none]
      exact ⟨ordered, fun p member => Nat.le_trans (bounded p member) below⟩
    · rw [List.filterMap_cons_some some]
      refine ⟨ordered.cons bounded, fun p member => ?_⟩
      rcases List.mem_cons.mp member with rfl | member
      · exact below
      · exact Nat.le_trans (bounded p member) below

namespace Machine

/-- The positions that the save points return to, from the bottom to the top. -/
def savedPositions (m : Machine) : List Nat := m.savePoints.items.reverse.filterMap (·.position)

/-- The lengths of the trail that the save points remember, from the bottom to the top. -/
def trailEnds (m : Machine) : List Nat := m.savePoints.items.reverse.map (·.trailEnd)

/-- What is in order about a machine, whatever its program is. -/
structure InOrder (m : Machine) (range : Span) : Prop where
  position : range.start ≤ m.position ∧ m.position ≤ range.stop
  saved : m.savedPositions.Pairwise (· ≤ ·)
  saved_le : ∀ q ∈ m.savedPositions, q ≤ m.position
  trailEnds : m.trailEnds.Pairwise (· ≤ ·)
  trailEnds_le : ∀ k ∈ m.trailEnds, k ≤ m.trail.depth
  opened : ∀ capture ∈ m.registers.captures.toList, ∀ start ∈ capture.opened,
    range.start ≤ start ∧ start ≤ m.position
  values : ∀ capture ∈ m.registers.captures.toList, ∀ value, capture.value = some value →
    range.start ≤ value.start ∧ value.start ≤ value.stop ∧ value.stop ≤ m.position

end Machine

variable {E : Type} {s : Search E} {m : Machine} {r : SnapshotMachine}

theorem Tracks.inOrder (h : Tracks m r) (within : r.thread.Within s) : m.InOrder s.range := by
  have place : m.config.position = r.config.position := congrArg (·.position) h.config
  have registers : m.registers = r.config.registers := congrArg (·.registers) h.config
  have positions : m.savePoints.items.filterMap (·.position) = r.savePoints.filterMap (·.position) := by
    have same := congrArg (List.filterMap fun p : Address × Option Nat => p.2) h.savePoints
    rwa [List.filterMap_map, List.filterMap_map] at same
  obtain ⟨saved, saved_le⟩ := within.saved.positions
  obtain ⟨trailEnds, trailEnds_le⟩ := h.restores.trailEnds
  have bounds := within.config.registers
  have here : r.thread.config.position = m.position := place.symm
  simp only [SnapshotMachine.thread] at bounds here saved saved_le
  rw [here] at saved_le bounds
  rw [← registers] at bounds
  rw [← positions] at saved saved_le
  refine ⟨here ▸ within.config.inside, ?_, ?_, ?_, ?_, ?_, ?_⟩
  · rw [Machine.savedPositions, List.filterMap_reverse, List.pairwise_reverse]
    exact saved
  · intro q member
    rw [Machine.savedPositions, List.filterMap_reverse, List.mem_reverse] at member
    exact saved_le q member
  · rw [Machine.trailEnds, List.map_reverse, List.pairwise_reverse, List.pairwise_map]
    exact trailEnds
  · intro k member
    rw [Machine.trailEnds, List.map_reverse, List.mem_reverse] at member
    obtain ⟨sp, held, rfl⟩ := List.mem_map.mp member
    rw [m.trail.depth_eq]
    exact trailEnds_le sp held
  · intro capture member
    obtain ⟨i, known⟩ := List.mem_iff_getElem?.mp member
    rw [Array.getElem?_toList] at known
    exact bounds.opened i capture known
  · intro capture member value eq
    obtain ⟨i, known⟩ := List.mem_iff_getElem?.mp member
    rw [Array.getElem?_toList] at known
    exact bounds.values i capture value known eq

theorem Thread.Within.at (within : r.thread.Within s) (h : Tracks m r) : m.config.Within s := by
  have config : r.thread.config = m.config := h.config.symm
  exact config ▸ within.config

namespace Search

variable [DecidableEq E]

/-- The machine with copies that goes along with a run is within the bounds. -/
theorem runFor_within (valid : s.range.start ≤ s.range.stop) {n : Nat} {log : Log}
    (ran : s.runFor n { s.start with log } = .next m) : ∃ r, Tracks m r ∧ r.thread.Within s := by
  have run := (Tracks.startWith s log).runFor (s := s) n
  rw [ran] at run
  cases copied : s.copyingRunFor n { s.copyingStart with log } with
  | fault f r => rw [copied] at run; exact run.elim
  | next r =>
    rw [copied] at run
    exact ⟨r, run, copyingRunFor_within (r := { s.copyingStart with log }) (s.start_within valid) copied⟩

/-- What is asserted before every cycle holds wherever a run gets to. -/
theorem runFor_check (valid : s.range.start ≤ s.range.stop) {n : Nat} {log : Log}
    (ran : s.runFor n { s.start with log } = .next m) (live : m.status = .inProgress) :
    s.check m = none := by
  obtain ⟨r, tracks, within⟩ := runFor_within valid ran
  have inside : ¬(r.config.position < s.range.start ∨ s.range.stop < r.config.position) := by
    have := within.config.inside.1
    have := within.config.inside.2
    simp only [SnapshotMachine.thread] at *
    omega
  rw [tracks.check, ← tracks.status, if_neg fun halted => halted live, if_neg inside]

/-! ### No subtraction goes below zero -/

variable {c : Configuration}

/-- A capture within the bounds can be compared. -/
theorem repeats_ok (within : c.Within s) (stop : s.range.stop ≤ s.input.size) {captured : Span}
    {capture : Capture} {i : Nat} (known : c.registers.captures[i]? = some capture)
    (value : capture.value = some captured) : ∃ again, s.repeats c.position captured = .ok again := by
  obtain ⟨-, ordered, le⟩ := within.registers.values i capture captured known value
  exact ⟨_, repeats_eq within stop ordered le⟩

/-- Within the bounds, something is always left of the range. -/
theorem effect_ne_subtraction (within : c.Within s) (op : Operation) :
    s.effect c op ≠ .fault .subtractionOverflow := by
  intro faulty
  cases effect_fault faulty with
  | beyond past => exact absurd within.inside.2 (Nat.not_le_of_lt past)

theorem cycle_ne_subtraction (valid : s.range.start ≤ s.range.stop) {n : Nat}
    (ran : s.runFor n s.start = .next m) (m' : Machine) :
    s.cycle m ≠ .fault .subtractionOverflow m' := by
  obtain ⟨r, tracks, within⟩ := runFor_within valid ran
  have bounds := within.at tracks
  intro faulty
  rw [cycle_eq] at faulty
  by_cases live : m.status = .inProgress
  · rw [runFor_check valid ran live] at faulty
    dsimp only at faulty
    split at faulty
    · cases faulty
    rcases s.fetch_cases m with ⟨f, log, cycles, fetched⟩ | ⟨log, op, fetched⟩
    · rw [turn_of_error fetched] at faulty
      cases faulty
      rcases fetch_fault fetched with word | past
      · exact word
      · cases past
    · rw [turn_of_ok fetched] at faulty
      rcases obey_fault faulty with effect | none | ⟨target, none⟩ | changed
      · exact effect_ne_subtraction bounds op effect
      · cases none
      · cases none
      · cases changed
  · have halted : s.check m = some .alreadyHalted := if_pos live
    rw [halted] at faulty
    cases faulty

end Search

/-! ### What is found is in order -/

/-- Wherever a search gets to, whatever its program is, positions, save points and captures are in order. So
there is always something that is left of the range, what a backreference looks at is there, and the groups
of a match lie within it. -/
theorem runs_stay_in_order {E : Type} [DecidableEq E] [Spelled E] (e : Engine E) {input : Array E}
    {range : Span} {mode : MatchMode} {s : Search E} (prepared : e.search input range mode = .ok s) :
    (∀ n m, s.runFor n s.start = .next m →
      m.InOrder range ∧ s.remaining m.position = .ok (range.stop - m.position) ∧
        (∀ capture ∈ m.registers.captures.toList, ∀ value, capture.value = some value →
          ∃ again, s.repeats m.position value = .ok again) ∧
        ∀ m', s.cycle m ≠ .fault .subtractionOverflow m') ∧
      ∀ log found, (e.findMatch input range mode).result log = .ok (.ok (some found)) →
        found.range.start = range.start ∧ found.range.start ≤ found.range.stop ∧
          found.range.stop ≤ range.stop ∧
          ∀ span, some span ∈ found.captures →
            found.range.start ≤ span.start ∧ span.start ≤ span.stop ∧
              span.stop ≤ found.range.stop := by
  obtain ⟨rfl, valid, stop⟩ := Search.prepare_spec prepared
  refine ⟨fun n m ran => ?_, fun log found result => ?_⟩
  · obtain ⟨r, tracks, within⟩ := Search.runFor_within valid ran
    have inOrder := tracks.inOrder within
    have bounds : m.config.Within _ := within.at tracks
    refine ⟨inOrder, Search.remaining_ok bounds.inside, fun capture member value eq => ?_,
      Search.cycle_ne_subtraction valid ran⟩
    obtain ⟨i, known⟩ := List.mem_iff_getElem?.mp member
    rw [Array.getElem?_toList] at known
    exact Search.repeats_ok bounds stop known eq
  · rw [e.findMatch_result ⟨valid, stop⟩ mode log, e.verdict_eq ⟨valid, stop⟩ mode] at result
    obtain ⟨m, ran, -, rfl⟩ := Step.answer_found result
    obtain ⟨r, tracks, within⟩ := Search.runFor_within valid (Search.run_next ran).1
    have inOrder := tracks.inOrder within
    refine ⟨rfl, inOrder.position.1, inOrder.position.2, fun span member => ?_⟩
    obtain ⟨capture, held, value⟩ := List.mem_map.mp member
    exact inOrder.values capture held span value

/-- A save point without a position brings the registers back, but not the place. -/
theorem runs_stay_in_order_resumed :
    ∃ (e : Engine Nat) (s : Search Nat), e.search #[0, 0, 1] ⟨0, 3⟩ .anywhere = .ok s ∧
      (∃ m, s.runFor 7 s.start = .next m ∧ m.InOrder ⟨0, 3⟩ ∧ m.position = 2 ∧
        m.savedPositions = [1] ∧ m.registers.captures = #[⟨[1], some ⟨0, 1⟩⟩]) ∧
      ∃ found, (e.findMatch #[0, 0, 1] ⟨0, 3⟩ .anywhere).result #[] = .ok (.ok (some found)) ∧
        found.range.stop = 2 ∧ some ⟨0, 1⟩ ∈ found.captures ∧
        ∀ span, some span ∈ found.captures → span.stop ≤ found.range.stop := by
  let code : List (Except Fault Instruction) :=
    [Instruction.beginCapture ⟨0⟩, Instruction.consume ⟨1⟩, Instruction.endCapture ⟨0⟩,
      Instruction.save (some ⟨9⟩), Instruction.saveAddress (some ⟨8⟩), Instruction.beginCapture ⟨0⟩,
      Instruction.backreference ⟨0⟩, Instruction.fail, Instruction.accept, Instruction.fail]
  let p : Program Nat := ⟨(code.filterMap Except.toOption).toArray, #[], #[], #[], #[],
    ⟨0, 0, 0, 0, 0, 0, 1⟩⟩
  let e : Engine Nat := { program := p }
  let s : Search Nat := ⟨p, #[0, 0, 1], ⟨0, 3⟩, {}⟩
  have prepared : e.search #[0, 0, 1] ⟨0, 3⟩ .anywhere = .ok s := rfl
  obtain ⟨always, atLast⟩ := runs_stay_in_order e prepared
  have facts : (s.runFor 7 s.start).leadsTo fun m => m.position = 2 ∧ m.savedPositions = [1] ∧
      m.registers.captures = #[⟨[1], some ⟨0, 1⟩⟩] := by decide +kernel
  have result : ((e.findMatch #[0, 0, 1] ⟨0, 3⟩ .anywhere).result #[]).toOption.bind Except.toOption =
      some (some ⟨⟨0, 2⟩, [some ⟨0, 1⟩]⟩) := by decide +kernel
  refine ⟨e, s, prepared, ?_, _, eq_ok_ok result, rfl, by decide, ?_⟩
  · obtain ⟨m, ran, there⟩ := Step.exists_of_leadsTo facts
    exact ⟨m, ran, (always 7 m ran).1, there⟩
  · obtain ⟨-, -, -, groups⟩ := atLast #[] _ (eq_ok_ok result)
    exact fun span member => (groups span member).2.2

end PatternMachine

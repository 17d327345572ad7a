import PatternMachine.Proofs.Machine.Route
import PatternMachine.Proofs.Safety.Search

/-! The check that ends an iteration sees the latest start of any activation of its loop, since all
activations share one register. Its answer is right unless an activation that has begun and ended within
the iteration has left the register at the present position. -/
namespace PatternMachine

variable {E : Type} [DecidableEq E] {p : Program E} {callees : Callees E} {s : Search E}

namespace Search

theorem chronicleFor_eq (n : Nat) (m : Machine) (w : Chronicle) :
    s.chronicleFor n m w = s.recordFor s.chronicle n m w := by
  induction n generalizing m w with
  | zero => rfl
  | succ n ih =>
    rw [chronicleFor, recordFor]
    cases s.cycle m with
    | next m' => simp only [ih]
    | fault f m' => rfl

/-- While a machine is in progress, its thread and its journals go well. -/
theorem runFor_good {n : Nat} {m m' : Machine} {r : SnapshotMachine} {w : Chronicle}
    (valid : s.range.stop ≤ s.input.size)
    (entries : ∀ a, callees.functions a → s.program.Typed callees (fun _ _ => False) a.index [])
    (tracks : Tracks m r) (good : r.thread.Good w s callees) (ran : s.runFor n m = .next m')
    (live : m'.status = .inProgress) :
    ∃ r', Tracks m' r' ∧ r'.thread.Good (s.chronicleFor n m w) s callees := by
  rw [chronicleFor_eq]
  have step (t t' : Thread) (w : Chronicle) (good : t.Good w s callees) (moved : s.move t = .next t') :
      t'.Good (s.chronicle t.config w) s callees := (move_good valid entries good).2 t' moved
  exact runFor_carries step tracks good ran live

/-- Two cycles of a machine whose thread goes on twice. -/
theorem runFor_two {m : Machine} {r : SnapshotMachine} {t t' : Thread} (tracks : Tracks m r)
    (live : m.status = .inProgress) (first : s.move r.thread = .next t)
    (second : s.move t = .next t') :
    ∃ m', s.runFor 2 m = .next m' ∧ ((m'.status = .failed ∧ m'.exceeded.isSome) ∨
      (m'.status = .inProgress ∧ m'.config = t'.config)) := by
  obtain ⟨m₁, cycled, result⟩ := cycle_next tracks live first
  have ran : s.runFor 2 m = s.runFor 1 m₁ := by
    rw [runFor, if_pos live, cycled]
  rcases result with ⟨failed, exceeded⟩ | ⟨live₁, r₁, tracks₁, rfl⟩
  · rw [runFor_halted 1 (by simp [failed])] at ran
    exact ⟨m₁, ran, .inl ⟨failed, exceeded⟩⟩
  · obtain ⟨m₂, cycled₂, result⟩ := cycle_next tracks₁ live₁ second
    rw [runFor_one live₁, cycled₂] at ran
    refine ⟨m₂, ran, ?_⟩
    rcases result with failed | ⟨live₂, r₂, tracks₂, rfl⟩
    · exact .inl failed
    · exact .inr ⟨live₂, tracks₂.config⟩

end Search

/-- At a check, the journal has one activation for every return address besides the current one, in
which the iteration that is checked is open. Unless a limit stops the machine, the loop is left if and
only if its latest iteration, in whatever activation, has started at the present position. So the check
is right unless the iteration itself has started before, and only the latest one there. -/
theorem check_sees_latest_start {g : Grammar E} {limit : Nat} (compiled : g.compile limit = .ok p)
    {input : Array E} {range : Span} {settings : Settings}
    (prepared : Search.prepare p input range settings = .ok s)
    {n : Nat} {m : Machine} (ran : s.runFor n s.start = .next m) (live : m.status = .inProgress)
    {register : PositionRegister} {stuck : BoolRegister}
    (check : p.operation? m.pc.index = some (.comparePosition register stuck)) :
    ∃ start latest own,
      (s.chronicleFor n s.start .empty).now.outer.length = m.callStack.items.length ∧
      (s.chronicleFor n s.start .empty).now.current = ⟨register, start⟩ :: own ∧
      (s.chronicleFor n s.start .empty).now.latest register = some latest ∧
      start ≤ latest ∧ latest ≤ m.position ∧
      ∃ m', s.runFor (n + 2) s.start = .next m' ∧
        ((m'.status = .failed ∧ m'.exceeded.isSome) ∨
          (m'.status = .inProgress ∧ m'.position = m.position ∧
            m'.pc = (if latest = m.position then ⟨m.pc.index + 3⟩ else ⟨m.pc.index + 2⟩) ∧
            ((m'.pc = ⟨m.pc.index + 3⟩ ↔ start = m.position) ↔
              ¬(start < m.position ∧ latest = m.position)))) := by
  obtain ⟨rfl, valid, stop⟩ := Search.prepare_spec prepared
  obtain ⟨entry, placed, -⟩ := Grammar.compile_placed compiled
  have typed := placed.wellTyped (P := fun _ => True) (fun q _ => q.2.consumers_true) trivial
  obtain ⟨r, tracks, good⟩ := Search.runFor_good stop typed.functions (Tracks.start _)
    (Search.start_good valid typed) ran live
  obtain ⟨within, ⟨d, outer, point, frames⟩, saved⟩ := id good
  obtain ⟨op, known, rule⟩ := point.rule
  have config : r.thread.config = m.config := tracks.config.symm
  have compare : p.operation? r.thread.config.pc.index = some (.comparePosition register stuck) := by
    rw [config]
    exact check
  have same : op = .comparePosition register stuck := Option.some.inj (known.symm.trans compare)
  subst same
  obtain ⟨-, bound, d', rfl, leave, -⟩ := rule
  obtain ⟨start, own, current⟩ := frames.checked
  have member : (⟨register, start⟩ : Iteration) ∈ Journal.opened _ :=
    List.mem_append_left _ (current ▸ List.mem_cons_self)
  obtain ⟨latest, known, le⟩ := frames.journal.opened _ member
  obtain ⟨holds, le'⟩ := frames.journal.latest _ _ known
  have depth := frames.waiting.length_eq.trans frames.returns.length_eq.symm
  rw [config] at le' depth
  have le : start ≤ latest := le
  have le' : latest ≤ m.position := le'
  refine ⟨start, latest, own, depth, current, known, le, le', ?_⟩
  obtain ⟨t, first, second⟩ := within.check compare leave bound holds
  obtain ⟨m', ran', result⟩ := Search.runFor_two tracks live first second
  refine ⟨m', (Search.runFor_add ran 2).trans ran', ?_⟩
  rcases result with failed | ⟨live', config'⟩
  · exact .inl failed
  have stays : m'.position = m.position :=
    (congrArg Configuration.position config').trans (congrArg Configuration.position config)
  have there : m'.pc = if latest = m.position then ⟨m.pc.index + 3⟩ else ⟨m.pc.index + 2⟩ := by
    have there := congrArg Configuration.pc config'
    simp only [Thread.checked, config] at there
    exact there
  refine .inr ⟨live', stays, there, ?_⟩
  have left : m'.pc = ⟨m.pc.index + 3⟩ ↔ latest = m.position := by
    rw [there]
    split
    next same => exact ⟨fun _ => same, fun _ => rfl⟩
    next other =>
      refine ⟨fun eq => ?_, fun same => absurd same other⟩
      have apart : m.pc.index + 2 = m.pc.index + 3 := congrArg Handle.index eq
      omega
  rw [left]
  constructor
  · rintro right ⟨before, same⟩
    exact Nat.ne_of_lt before (right.mp same)
  · intro neither
    constructor
    · intro same
      by_contra apart
      exact neither ⟨by omega, same⟩
    · intro same
      omega

/-- A loop of which the first iteration calls the loop again. The inner activation leaves the register
at 1, so the outer one is left there, though its iteration has come from 0. -/
theorem check_sees_inner_start :
    let g : Grammar Nat := ⟨"loop", [("loop", .repetition .zeroOrMore .greedy <| .alternation
      [.concat [.element 0, .reference "loop", .capture 0 none .empty],
        .concat [.backreference 0, .element 1], .empty])]⟩
    ∃ (p : Program Nat) (s : Search Nat) (m m' : Machine) (own : List Iteration),
      g.compile 100 = .ok p ∧ Search.prepare p #[0, 1] ⟨0, 2⟩ {} = .ok s ∧
      s.runFor 20 s.start = .next m ∧ s.runFor 22 s.start = .next m' ∧
      (s.chronicleFor 20 s.start .empty).now.current = ⟨⟨0⟩, 0⟩ :: own ∧
      m.position = 1 ∧ m'.pc = ⟨m.pc.index + 3⟩ := by
  intro g
  let shows (s : Search Nat) : Bool :=
    match s.runFor 20 s.start, s.runFor 22 s.start with
    | .next m, .next m' =>
      decide (m.status = .inProgress ∧ m'.status = .inProgress ∧ m.position = 1 ∧
        s.program.operation? m.pc.index = some (.comparePosition ⟨0⟩ ⟨0⟩) ∧
        (s.chronicleFor 20 s.start .empty).now.current.head? = some ⟨⟨0⟩, 0⟩ ∧
        (s.chronicleFor 20 s.start .empty).now.latest ⟨0⟩ = some 1)
    | _, _ => false
  have facts : (match g.compile 100 with
      | .error _ => false
      | .ok p => shows ⟨p, #[0, 1], ⟨0, 2⟩, {}⟩) = true := by
    decide +kernel
  cases compiled : g.compile 100 with
  | error e => rw [compiled] at facts; cases facts
  | ok p =>
    rw [compiled] at facts
    let s : Search Nat := ⟨p, #[0, 1], ⟨0, 2⟩, {}⟩
    have prepared : Search.prepare p #[0, 1] ⟨0, 2⟩ {} = .ok s := rfl
    have facts : shows s = true := facts
    simp only [shows] at facts
    cases ran : s.runFor 20 s.start with
    | fault f m => rw [ran] at facts; cases facts
    | next m =>
      cases ran' : s.runFor 22 s.start with
      | fault f m' => rw [ran, ran'] at facts; cases facts
      | next m' =>
        rw [ran, ran'] at facts
        have facts := of_decide_eq_true facts
        obtain ⟨live, live', position, check, current, last⟩ := facts
        obtain ⟨start, latest, own, -, current', last', -, -, decided⟩ :=
          check_sees_latest_start compiled prepared ran live check
        obtain ⟨m'', ran'', decided⟩ := decided
        rw [ran'] at ran''
        cases ran''
        rcases decided with ⟨failed, -⟩ | ⟨-, -, there, -⟩
        · rw [live'] at failed
          cases failed
        rw [current'] at current
        cases current
        rw [last] at last'
        cases last'
        rw [if_pos position.symm] at there
        exact ⟨p, s, m, m', own, rfl, prepared, ran, ran', current', position, there⟩

end PatternMachine

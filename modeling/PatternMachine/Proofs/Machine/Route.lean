import PatternMachine.Proofs.Machine.Cycle
import PatternMachine.Proofs.Machine.Run

/-! The search path of a machine: the configurations that have led to the present one, without those that
backtracking has given up. Every save point keeps the path on which it was made. -/
namespace PatternMachine

/-- The configurations on the way to the present one, the latest first, and those on the way to each save
point, of which the first one has made it. -/
structure Route where
  now : List Configuration
  saved : List (Address × List Configuration)

namespace Route

def empty : Route := ⟨[], []⟩

/-- The paths below the latest one that belongs to `target`. -/
def dropThrough (target : Address) :
    List (Address × List Configuration) → List (Address × List Configuration)
  | [] => []
  | (resume, _) :: rest => if resume = target then rest else dropThrough target rest

/-- The paths after an effect of the present configuration. -/
def obey (w : Route) (c : Configuration) : Effect → Route
  | .go _ _ | .say _ _ | .change _ _ => { w with now := c :: w.now }
  | .save resume _ => ⟨c :: w.now, (resume, c :: w.now) :: w.saved⟩
  | .drop => ⟨c :: w.now, w.saved.tail⟩
  | .dropThrough target => ⟨c :: w.now, dropThrough target w.saved⟩
  | .backtrack =>
    match w.saved with
    | [] => w
    | (_, now) :: saved => ⟨now, saved⟩
  | .fault _ | .accept | .abort _ => w

end Route

/-- The configurations that an effect leads to: the next one, and the one that a save point brings back. -/
def Effect.Leads (c : Configuration) : Effect → Configuration → Prop
  | .go pc position, d => d = { c with pc, position }
  | .say _ _, d | .drop, d | .dropThrough _, d => d = c.advance
  | .change c' _, d => d = c'
  | .save resume position, d => d = c.advance ∨
      ∃ q, position = some q ∧ d = { c with pc := resume, position := q }
  | .fault _, _ | .backtrack, _ | .accept, _ | .abort _, _ => False

/-- Where an operation leads on a search path: which instruction comes next, how far it moves on, and what
becomes of the calls. -/
def Operation.Onward (c d : Configuration) : Operation → Prop
  | .call target => d.pc = target ∧ d.position = c.position ∧
      d.callStack.items = c.pc.next :: c.callStack.items
  | .ret => d.position = c.position ∧ c.callStack.items = d.pc :: d.callStack.items
  | .branch target => d.pc = target ∧ d.position = c.position ∧ d.callStack = c.callStack
  | .condBranch _ target | .save target =>
    (d.pc = target ∨ d.pc = c.pc.next) ∧ d.position = c.position ∧ d.callStack = c.callStack
  | .consume distance =>
    d.pc = c.pc.next ∧ d.position = c.position + distance.index ∧ d.callStack = c.callStack
  | .matchElement _ | .matchPredicate _ =>
    d.pc = c.pc.next ∧ d.position = c.position + 1 ∧ d.callStack = c.callStack
  | .consumeBy _ | .backreference _ =>
    d.pc = c.pc.next ∧ c.position ≤ d.position ∧ d.callStack = c.callStack
  | .nop _ | .saveAddress _ | .clear | .clearThrough _ | .assertion _ _ | .movePosition _
  | .comparePosition _ _ | .beginCapture _ | .endCapture _ | .print _ =>
    d.pc = c.pc.next ∧ d.position = c.position ∧ d.callStack = c.callStack
  | .invalid | .restore | .fail | .accept | .abort _ => False

namespace Search

variable {E : Type} [DecidableEq E]

/-- The paths after the next operation of a configuration. -/
def route (s : Search E) (c : Configuration) (w : Route) : Route :=
  match s.program.operation? c.pc.index with
  | none => w
  | some op => w.obey c (s.effect c op)

/-- What is recorded in at most `n` cycles, where `note` adds what a configuration does next. -/
def recordFor {W : Type} (s : Search E) (note : Configuration → W → W) : Nat → Machine → W → W
  | 0, _, w => w
  | n + 1, m, w =>
    if m.status = .inProgress then
      match s.cycle m with
      | .next m' => s.recordFor note n m' (note m.config w)
      | .fault _ _ => w
    else w

/-- The search path of the machine after at most `n` cycles, the latest configuration first. -/
def pathFor (s : Search E) (n : Nat) : List Configuration :=
  (s.recordFor s.route n s.start .empty).now

/-- One configuration follows the other on a search path. -/
def Leads (s : Search E) (c d : Configuration) : Prop :=
  ∃ op, s.program.operation? c.pc.index = some op ∧ (s.effect c op).Leads c d

/-- A search path to the configuration, the latest first. -/
def Path (s : Search E) : List Configuration → Configuration → Prop
  | [], d => d = s.start.config
  | c :: path, d => s.Leads c d ∧ s.Path path c

variable {s : Search E}

/-! ### Runs -/

/-- What holds of threads and of what is recorded of them holds of machines in progress. -/
theorem runFor_carries {W : Type} {note : Configuration → W → W} {P : Thread → W → Prop}
    (step : ∀ t t' w, P t w → s.move t = .next t' → P t' (note t.config w))
    {n : Nat} {m m' : Machine} {r : SnapshotMachine} {w : W} (tracks : Tracks m r)
    (holds : P r.thread w) (ran : s.runFor n m = .next m') (live : m'.status = .inProgress) :
    ∃ r', Tracks m' r' ∧ P r'.thread (s.recordFor note n m w) := by
  induction n generalizing m r w with
  | zero =>
    cases ran
    exact ⟨r, tracks, holds⟩
  | succ n ih =>
    rw [runFor] at ran
    rw [recordFor]
    split at ran
    next going =>
      rw [if_pos going]
      cases cycled : s.cycle m with
      | fault f m'' => rw [cycled] at ran; cases ran
      | next m'' =>
        rw [cycled] at ran
        have ran : s.runFor n m'' = .next m' := ran
        have goingOn : m''.status = .inProgress := by
          refine Decidable.byContradiction fun halted => ?_
          rw [runFor_halted n halted] at ran
          cases ran
          exact halted live
        obtain ⟨r'', tracks'', moved⟩ := cycle_thread tracks going cycled goingOn
        have holds'' := step _ _ _ holds moved
        have config : r.thread.config = m.config := tracks.config.symm
        rw [config] at holds''
        exact ih tracks'' holds'' ran
    next halted =>
      cases ran
      exact absurd live halted

/-- The paths lead to where the save points resume. -/
def SavedAlong (s : Search E) : List Snapshot → List (Address × List Configuration) → Prop
  | [], [] => True
  | sn :: rest, (resume, path) :: paths =>
    sn.resume = resume ∧ (∀ position, s.Path path (sn.config position)) ∧ s.SavedAlong rest paths
  | _, _ => False

theorem SavedAlong.dropThrough {saved rest : List Snapshot}
    {paths : List (Address × List Configuration)} {target : Address} (h : s.SavedAlong saved paths)
    (dropped : Snapshot.dropThrough target saved = some rest) :
    s.SavedAlong rest (Route.dropThrough target paths) := by
  induction saved generalizing paths with
  | nil => cases dropped
  | cons sn saved ih =>
    cases paths with
    | nil => exact h.elim
    | cons entry paths =>
      obtain ⟨resume, -, h⟩ := h
      by_cases same : sn.resume = target
      · rw [Snapshot.dropThrough, if_pos same] at dropped
        cases dropped
        rw [Route.dropThrough, if_pos (resume.symm.trans same)]
        exact h
      · rw [Snapshot.dropThrough, if_neg same] at dropped
        rw [Route.dropThrough, if_neg fun eq => same (resume.trans eq)]
        exact ih h dropped

/-- The thread has come along the path. -/
structure Along (s : Search E) (t : Thread) (w : Route) : Prop where
  now : s.Path w.now t.config
  saved : s.SavedAlong t.savePoints w.saved

/-- A move extends the path, or takes up that of a save point. -/
theorem Along.move {t t' : Thread} {w : Route} (h : s.Along t w) (moved : s.move t = .next t')
    (placed : ∀ sn ∈ t'.savePoints, sn.position.isSome) : s.Along t' (s.route t.config w) := by
  obtain ⟨-, op, known, moved⟩ := move_next moved
  have leads {d : Configuration} (leads : (s.effect t.config op).Leads t.config d) :
      s.Path (t.config :: w.now) d := ⟨⟨op, known, leads⟩, h.now⟩
  obtain ⟨-, saved⟩ := h
  simp only [route, known]
  generalize s.effect t.config op = e at moved leads
  cases e with
  | fault f => cases moved
  | accept => cases moved
  | abort reason => cases moved
  | go pc position => cases moved; exact ⟨leads rfl, saved⟩
  | say level text => cases moved; exact ⟨leads rfl, saved⟩
  | change c u => cases moved; exact ⟨leads rfl, saved⟩
  | save resume position =>
    cases moved
    obtain ⟨q, rfl⟩ := Option.isSome_iff_exists.mp (placed _ List.mem_cons_self)
    exact ⟨leads (.inl rfl), rfl, fun _ => leads (.inr ⟨q, rfl, rfl⟩), saved⟩
  | drop =>
    simp only [Thread.obey] at moved
    split at moved
    · cases moved
    next sn rest points =>
      cases moved
      rw [points] at saved
      obtain ⟨now, paths⟩ := w
      cases paths with
      | nil => exact saved.elim
      | cons entry paths => exact ⟨leads rfl, saved.2.2⟩
  | dropThrough target =>
    simp only [Thread.obey] at moved
    split at moved
    · cases moved
    next rest dropped => cases moved; exact ⟨leads rfl, saved.dropThrough dropped⟩
  | backtrack =>
    simp only [Thread.obey, Move.fall] at moved
    split at moved
    · cases moved
    next sn rest points =>
      cases moved
      rw [points] at saved
      obtain ⟨now, paths⟩ := w
      cases paths with
      | nil => exact saved.elim
      | cons entry paths => exact ⟨saved.2.1 _, saved.2.2⟩

/-! ### Steps -/

variable {c d : Configuration} {op : Operation}

omit [DecidableEq E] in
theorem consumption_leads {holds : Bool} (leads : (consumption c holds).Leads c d) :
    d.pc = c.pc.next ∧ d.position = c.position + 1 ∧ d.callStack = c.callStack := by
  cases holds with
  | true =>
    cases leads
    exact ⟨rfl, rfl, rfl⟩
  | false => exact leads.elim

omit [DecidableEq E] in
theorem assignment_leads {register : BoolRegister} {value : Bool}
    (leads : (assignment c register value).Leads c d) :
    d.pc = c.pc.next ∧ d.position = c.position ∧ d.callStack = c.callStack := by
  unfold assignment at leads
  split at leads
  · exact leads.elim
  · cases leads
    exact ⟨rfl, rfl, rfl⟩

omit [DecidableEq E] in
theorem not_acceptance_leads : ¬(s.acceptance c).Leads c d := by
  unfold acceptance
  split <;> exact id

/-- Operations that look something up go nowhere if it is not there. -/
theorem effect_onward (leads : (s.effect c op).Leads c d) : op.Onward c d := by
  cases op with
  | invalid | restore | fail => exact leads.elim
  | branch target | clear | clearThrough target | call target => cases leads; exact ⟨rfl, rfl, rfl⟩
  | nop comment =>
    simp only [effect] at leads
    split at leads
    · split at leads
      · exact leads.elim
      · cases leads; exact ⟨rfl, rfl, rfl⟩
      · cases leads; exact ⟨rfl, rfl, rfl⟩
    · cases leads; exact ⟨rfl, rfl, rfl⟩
  | condBranch condition target =>
    simp only [effect] at leads
    split at leads
    · exact leads.elim
    · cases leads; exact ⟨.inl rfl, rfl, rfl⟩
    · cases leads; exact ⟨.inr rfl, rfl, rfl⟩
  | save target =>
    rcases leads with rfl | ⟨q, eq, rfl⟩
    · exact ⟨.inr rfl, rfl, rfl⟩
    · cases eq; exact ⟨.inl rfl, rfl, rfl⟩
  | saveAddress target =>
    rcases leads with rfl | ⟨q, eq, -⟩
    · exact ⟨rfl, rfl, rfl⟩
    · cases eq
  | ret =>
    simp only [effect] at leads
    split at leads
    · exact (not_acceptance_leads leads).elim
    next address callStack popped =>
      cases leads
      exact ⟨rfl, congrArg Stack.items (Stack.push_of_pop? popped).symm⟩
  | accept => exact (not_acceptance_leads leads).elim
  | abort reason =>
    simp only [effect] at leads
    split at leads <;> exact leads.elim
  | consume distance =>
    simp only [effect] at leads
    split at leads
    · exact leads.elim
    · split at leads
      · cases leads; exact ⟨rfl, rfl, rfl⟩
      · exact leads.elim
  | consumeBy function =>
    simp only [effect] at leads
    split at leads
    · exact leads.elim
    · split at leads
      · exact leads.elim
      · split at leads
        next inside => cases leads; exact ⟨rfl, inside.1, rfl⟩
        · exact leads.elim
  | matchElement operand | matchPredicate operand =>
    simp only [effect] at leads
    split at leads
    · exact leads.elim
    · exact consumption_leads leads
  | assertion operand condition | comparePosition operand condition =>
    simp only [effect] at leads
    split at leads
    · exact leads.elim
    · exact assignment_leads leads
  | movePosition operand | beginCapture operand | print operand =>
    simp only [effect] at leads
    split at leads
    · exact leads.elim
    · cases leads; exact ⟨rfl, rfl, rfl⟩
  | endCapture register =>
    simp only [effect] at leads
    split at leads
    · exact leads.elim
    · exact leads.elim
    · cases leads; exact ⟨rfl, rfl, rfl⟩
  | backreference register =>
    simp only [effect] at leads
    split at leads
    · exact leads.elim
    · exact leads.elim
    · split at leads
      · exact leads.elim
      · cases leads; exact ⟨rfl, Nat.le_add_right _ _, rfl⟩
      · exact leads.elim

end Search

end PatternMachine

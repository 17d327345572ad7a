import PatternMachine.Proofs.Machine.Route
import PatternMachine.Proofs.Nullability.Stalling
import PatternMachine.Proofs.Safety.Search

/-! A pattern that cannot match empty moves every search on that gets through its code. -/
namespace PatternMachine

variable {E : Type} {p : Program E} {s : Search E} {c d : Configuration}

namespace Operation

variable {op : Operation}

/-- Positions do not go back, and calls come and go one by one. -/
theorem Onward.calls (h : op.Onward c d) : c.position ≤ d.position ∧
    (d.callStack = c.callStack ∨ d.callStack.items = c.pc.next :: c.callStack.items ∨
      c.callStack.items = d.pc :: d.callStack.items) := by
  cases op with
  | call target =>
    obtain ⟨-, same, called⟩ := h
    exact ⟨Nat.le_of_eq same.symm, .inr (.inl called)⟩
  | ret =>
    obtain ⟨same, returned⟩ := h
    exact ⟨Nat.le_of_eq same.symm, .inr (.inr returned)⟩
  | consume distance =>
    obtain ⟨-, moved, stays⟩ := h
    exact ⟨by omega, .inl stays⟩
  | matchElement element =>
    obtain ⟨-, moved, stays⟩ := h
    exact ⟨by omega, .inl stays⟩
  | matchPredicate predicate =>
    obtain ⟨-, moved, stays⟩ := h
    exact ⟨by omega, .inl stays⟩
  | consumeBy function =>
    obtain ⟨-, le, stays⟩ := h
    exact ⟨le, .inl stays⟩
  | backreference register =>
    obtain ⟨-, le, stays⟩ := h
    exact ⟨le, .inl stays⟩
  | invalid | restore | fail | accept | abort reason => exact h.elim
  | _ =>
    obtain ⟨-, same, stays⟩ := h
    exact ⟨Nat.le_of_eq same.symm, .inl stays⟩

/-- Unless it moves on or makes a call, control follows the rule. -/
theorem Onward.stalls {next : Nat → Prop} (h : op.Onward c d) (stalls : op.Stalls next c.pc.index)
    (same : d.position = c.position) :
    (d.callStack = c.callStack ∧ next d.pc.index) ∨
      (d.callStack.items = c.pc.next :: c.callStack.items ∧ next (c.pc.index + 1)) := by
  cases op with
  | call target => exact .inr ⟨h.2.2, stalls⟩
  | ret => exact stalls.elim
  | branch target =>
    obtain ⟨rfl, -, stays⟩ := h
    exact .inl ⟨stays, stalls⟩
  | condBranch condition target =>
    obtain ⟨rfl | there, -, stays⟩ := h
    · exact .inl ⟨stays, stalls.1⟩
    · exact .inl ⟨stays, there ▸ stalls.2⟩
  | save target =>
    obtain ⟨rfl | there, -, stays⟩ := h
    · exact .inl ⟨stays, stalls.1⟩
    · exact .inl ⟨stays, there ▸ stalls.2⟩
  | consume distance =>
    have moved : d.position = c.position + distance.index := h.2.1
    have some_ : distance.index ≠ 0 := stalls
    omega
  | matchElement element =>
    have moved : d.position = c.position + 1 := h.2.1
    omega
  | matchPredicate predicate =>
    have moved : d.position = c.position + 1 := h.2.1
    omega
  | invalid | restore | fail | accept | abort reason => exact h.elim
  | saveAddress target | assertion element condition | print message => exact stalls.elim
  | _ =>
    obtain ⟨there, -, stays⟩ := h
    exact .inl ⟨stays, there ▸ stalls⟩

end Operation

/-- Control has moved on from position `b`, or it is where it can get to without that in an activation with
these return addresses: at such a point, or in a call that comes back to one. -/
def Program.Held (p : Program E) (stop : Nat) (exits : Nat → Unit → Prop) (b : Nat)
    (calls : List Address) (c : Configuration) : Prop :=
  b < c.position ∨ (c.position = b ∧
    ((c.callStack.items = calls ∧ p.Stalled stop exits c.pc.index) ∨
      ∃ newer a, c.callStack.items = newer ++ a :: calls ∧ p.Stalled stop exits a.index))

section

variable [DecidableEq E] {stop b : Nat} {exits : Nat → Unit → Prop} {calls : List Address}
  {newer older : List Configuration}

theorem Program.Held.step (h : s.program.Held stop exits b calls c) (leads : s.Leads c d)
    (stays : c.callStack.items = calls → ¬exits c.pc.index ()) :
    s.program.Held stop exits b calls d := by
  obtain ⟨op, known, leads⟩ := leads
  have onward := Search.effect_onward leads
  obtain ⟨le, stack⟩ := onward.calls
  rcases h with moved | ⟨here, held⟩
  · exact .inl (Nat.lt_of_lt_of_le moved le)
  by_cases same : d.position = c.position
  · refine .inr ⟨same.trans here, ?_⟩
    rcases held with ⟨own, stalled⟩ | ⟨above, a, deeper, stalled⟩
    · obtain ⟨-, op', known', stalls⟩ := stalled.rule (stays own)
      cases known.symm.trans known'
      rcases onward.stalls stalls same with ⟨stays, stalled⟩ | ⟨called, stalled⟩
      · exact .inl ⟨stays ▸ own, stalled⟩
      · exact .inr ⟨[], c.pc.next, by rw [called, own]; rfl, stalled⟩
    · rcases stack with stays | called | returned
      · exact .inr ⟨above, a, stays ▸ deeper, stalled⟩
      · exact .inr ⟨c.pc.next :: above, a, by rw [called, deeper]; rfl, stalled⟩
      · rw [deeper] at returned
        -- The call that is left is the one in question, or one that it has led to.
        cases above with
        | nil =>
          obtain ⟨back, rest⟩ := List.cons.inj returned
          exact .inl ⟨rest.symm, back ▸ stalled⟩
        | cons _ above => exact .inr ⟨above, a, (List.cons.inj returned).2.symm, stalled⟩
  · exact .inl (by omega)

theorem Program.Held.path (h : s.program.Held stop exits b calls c)
    (path : s.Path (newer ++ c :: older) d)
    (stays : ∀ c' ∈ newer ++ [c], c'.callStack.items = calls → ¬exits c'.pc.index ()) :
    s.program.Held stop exits b calls d := by
  induction newer generalizing d with
  | nil => exact h.step path.1 (stays c (by simp))
  | cons last newer ih =>
    obtain ⟨leads, path⟩ := path
    have held := ih path fun c' member => stays c' (List.mem_cons_of_mem last member)
    exact held.step leads (stays last (by simp))

/-- Control that is stalled in front of `stop` moves on before it gets there. -/
theorem Program.Stalled.advances (h : s.program.Stalled stop exits c.pc.index)
    (path : s.Path (newer ++ c :: older) d)
    (stays : ∀ c' ∈ newer ++ [c], c'.callStack = c.callStack → ¬exits c'.pc.index ())
    (same : d.callStack = c.callStack) (there : d.pc.index = stop) (last : ¬exits stop ()) :
    c.position < d.position := by
  have start : s.program.Held stop exits c.position c.callStack.items c := .inr ⟨rfl, .inl ⟨rfl, h⟩⟩
  have held := start.path path fun c' member own => stays c' member (Stack.ext own)
  rcases held with moved | ⟨-, ⟨-, stalled⟩ | ⟨newer, a, deeper, -⟩⟩
  · exact moved
  · rw [there] at stalled
    exact absurd (stalled.rule last).1 (Nat.lt_irrefl stop)
  · have length := congrArg List.length deeper
    rw [same, List.length_append, List.length_cons] at length
    omega

end

/-! ### Runs -/

theorem SavedStands.placed {callees : Callees E} {saved : List Snapshot}
    {journals : List (Address × Journal)} (h : SavedStands p callees saved journals) :
    ∀ sn ∈ saved, sn.position.isSome := by
  induction saved generalizing journals with
  | nil => simp
  | cons sn saved ih =>
    cases journals with
    | nil => exact h.elim
    | cons entry journals =>
      obtain ⟨-, placed, -, rest⟩ := h
      exact List.forall_mem_cons.mpr ⟨placed, ih rest⟩

section

variable [DecidableEq E]

/-- The search path of a machine leads to it. -/
theorem Search.runFor_path {callees : Callees E} (typed : s.program.WellTyped callees)
    (start : s.range.start ≤ s.range.stop) (stop : s.range.stop ≤ s.input.size) {n : Nat} {m : Machine}
    (ran : s.runFor n s.start = .next m) (live : m.status = .inProgress) :
    s.Path (s.pathFor n) m.config := by
  let P (t : Thread) (w : Route) : Prop := (∃ journals, t.Good journals s callees) ∧ s.Along t w
  have step (t t' : Thread) (w : Route) (holds : P t w) (moved : s.move t = .next t') :
      P t' (s.route t.config w) := by
    obtain ⟨⟨journals, good⟩, along⟩ := holds
    have good' := (move_good stop typed.functions good).2 t' moved
    exact ⟨⟨_, good'⟩, along.move moved good'.saved.placed⟩
  have begins : P s.copyingStart.thread .empty := ⟨⟨.empty, start_good start typed⟩, rfl, trivial⟩
  obtain ⟨r, tracks, -, along⟩ := runFor_carries step (Tracks.start s) begins ran live
  have config : r.thread.config = m.config := tracks.config.symm
  rw [← config]
  exact along.now

/-- Every time control gets from `lo` to `hi` in one activation, on one search path, it has moved on in the
input, unless it has been at an avoided address of the activation on the way. -/
def Search.Advances (s : Search E) (avoided : Nat → Prop) (lo hi : Nat) : Prop :=
  ∀ n m, s.runFor n s.start = .next m → m.status = .inProgress → m.pc.index = hi →
    ∀ newer c older, s.pathFor n = newer ++ c :: older → c.pc.index = lo →
      c.callStack = m.callStack →
      (∀ c' ∈ newer, c'.callStack = m.callStack → ¬avoided c'.pc.index) → c.position < m.position

/-- The code of the shape is right if control is stalled in it. -/
theorem Program.Stalled.search {avoided : Nat → Prop} {callees : Callees E} {lo hi : Nat}
    (typed : s.program.WellTyped callees) (start : s.range.start ≤ s.range.stop)
    (stop : s.range.stop ≤ s.input.size)
    (stalled : s.program.Stalled hi (fun j _ => avoided j) lo) (first : ¬avoided lo)
    (last : ¬avoided hi) : s.Advances avoided lo hi := by
  intro n m ran live there newer c older path began same stays
  have leads := Search.runFor_path typed start stop ran live
  rw [path] at leads
  rw [← began] at stalled
  refine stalled.advances leads ?_ same.symm there last
  intro c' member own
  rcases List.mem_append.mp member with member | member
  · exact stays c' member (own.trans same)
  · cases List.mem_singleton.mp member
    rwa [began]

end

end PatternMachine

import PatternMachine.Proofs.Cuts.Waiting
import PatternMachine.Proofs.Machine.History

/-! The save point that catches the body of a construct was pushed by the activation that waits for it, and
by its latest entry into the construct. It is on top of the stack that the construct was entered with, but
for the one that an assertion puts between them. -/
namespace PatternMachine

variable {E : Type} {p : Program E} {entries : Address → Prop}

namespace Thread

/-- The thread with what an assertion saves below the save point that catches. -/
def lead (t : Thread) : Enclosure → Thread
  | .atomic _ => t
  | .assertion kind mid => t.save (Enclosure.assertion kind mid).done

theorem lead_callStack (t : Thread) (e : Enclosure) :
    (t.lead e).config.callStack = t.config.callStack := by
  cases e <;> rfl

namespace Waits

variable {before : Option Thread} {t : Thread} {σ : Stage} {outer : List (List Enclosure)}
  {e : Enclosure} {sn : Snapshot}

/-- A save point is an alternative, or an activation waits for it. -/
theorem resumes (waits : t.Waits p entries before σ outer) (member : sn ∈ t.savePoints) :
    p.Behind sn.resume ∨ ∃ e, p.Closes e ∧ sn.resume = e.catching ∧
      (e, sn.callStack.items) ∈ PatternMachine.held (σ.bodies :: outer) t.config.callStack.items := by
  have saved := waits.saved
  cases σ with
  | inside d => exact Stacked.resumes saved member
  | entered kind mid d =>
    obtain ⟨t₀, -, -, -, rfl, behind, stacked⟩ := saved
    rcases List.mem_cons.mp member with rfl | member
    · exact .inl behind
    · exact stacked.resumes member
  | settled d =>
    obtain ⟨sn', rest, eq, behind, stacked⟩ := saved
    rw [eq] at member
    rcases List.mem_cons.mp member with rfl | member
    · exact .inl behind
    · exact stacked.resumes member

/-- An activation waits for a save point where a body is caught. -/
theorem held (waits : t.Waits p entries before σ outer) (closes : p.Closes e)
    (member : sn ∈ t.savePoints) (resume : sn.resume = e.catching) :
    (e, sn.callStack.items) ∈ held (σ.bodies :: outer) t.config.callStack.items := by
  rcases waits.resumes member with behind | ⟨e', closes', resume', held⟩
  · exact absurd (resume ▸ behind) closes.catching_not_behind
  · cases closes.eq_of_catching closes' (resume.symm.trans resume')
    exact held

/-- While the save point is there, the activation has not returned. -/
theorem suffix (waits : t.Waits p entries before σ outer) (closes : p.Closes e)
    (member : sn ∈ t.savePoints) (resume : sn.resume = e.catching) :
    sn.callStack.items <:+ t.config.callStack.items :=
  suffix_of_held (waits.held closes member resume)

/-- While the save point is there, the activation does not save another one that catches there. -/
theorem apart (waits : t.Waits p entries before σ outer) (closes : p.Closes e)
    (member : sn ∈ t.savePoints) (resume : sn.resume = e.catching)
    (saves : p.operation? t.config.pc.index = some (.save e.catching)) :
    sn.callStack.items ≠ t.config.callStack.items := by
  intro same
  have held := waits.held closes member resume
  rw [same] at held
  have inside : e ∈ σ.bodies := mem_of_held waits.returns held
  have rule : σ.Saves p (p.Staged entries fun _ _ => False) t.config.pc.index e.catching :=
    waits.staged.rule saves
  cases rule with
  | alternative behind => exact closes.catching_not_behind behind
  | atomic _ _ eq apart => exact apart e inside eq
  | assertion _ _ _ behind => exact closes.catching_not_behind behind
  | catching eq apart => exact apart e inside eq

end Waits

end Thread

variable [DecidableEq E] {s : Search E}

namespace Search

/-- The thread of a search comes here with its `n`-th move. -/
def Comes (s : Search E) (n : Nat) (t : Thread) : Prop :=
  s.after n (.next s.copyingStart.thread) = .next t

/-- The constructs of a thread have what they wait for, wherever it comes. -/
theorem Comes.encloses (staged : s.program.WellStaged entries) {n : Nat} {t : Thread}
    (comes : s.Comes n t) : ∃ before, t.Encloses s.program entries before ∧
      ∀ t₀, before = some t₀ → ∃ k, n = k + 1 ∧ s.Comes k t₀ := by
  induction n generalizing t with
  | zero =>
    cases comes
    exact ⟨none, ⟨⟨_, [], .inside staged.start .nil .nil⟩, trivial⟩, nofun⟩
  | succ n ih =>
    obtain ⟨t₀, comes, moved⟩ := after_succ.mp comes
    obtain ⟨before, ⟨⟨σ, outer, waits⟩, saved⟩, -⟩ := ih comes
    refine ⟨some t₀, (move_turn waits.staged moved).encloses waits saved staged, fun t₁ eq => ?_⟩
    cases eq
    exact ⟨n, rfl, comes⟩

/-- The construct was entered by `entry` in move `k`, and `sn` is what catches its body; until move `n`,
all that was below it has stayed. -/
structure Catches (s : Search E) (e : Enclosure) (k n : Nat) (entry : Thread) (sn : Snapshot) :
    Prop where
  entered : s.Comes k entry
  opens : s.program.Opens entry.config.pc.index e
  saves : s.Comes (k + e.lead) (entry.lead e)
  catches : s.program.operation? (entry.lead e).config.pc.index = some (.save e.catching)
  before : k + e.lead < n
  caught : sn = (entry.lead e).config.save e.catching (some (entry.lead e).config.position)
  stays : ∀ j t, k + e.lead < j → j ≤ n → s.Comes j t →
    (sn :: (entry.lead e).savePoints) <:+ t.savePoints

/-- Every save point where a body is caught was pushed when its construct was entered. -/
theorem Comes.catches (staged : s.program.WellStaged entries) {n : Nat} {t : Thread}
    (comes : s.Comes n t) {above rest : List Snapshot} {sn : Snapshot} {e : Enclosure}
    (saved : t.savePoints = above ++ sn :: rest) (closes : s.program.Closes e)
    (resume : sn.resume = e.catching) :
    ∃ k entry, s.Catches e k n entry sn ∧ rest = (entry.lead e).savePoints := by
  obtain ⟨k, lt, ⟨tₖ, comesₖ, below⟩, stays⟩ := after_pushed rfl comes saved
  obtain ⟨t', comes'⟩ := after_before comes (Nat.succ_le_of_lt lt)
  obtain ⟨t₀, comes₀, moved⟩ := after_succ.mp comes'
  cases comesₖ.symm.trans comes₀
  obtain ⟨before, ⟨⟨σ, outer, waits⟩, -⟩, came⟩ := Comes.encloses staged comesₖ
  have pushed := stays (k + 1) t' (Nat.lt_succ_self k) (Nat.succ_le_of_lt lt) comes'
  have longer : tₖ.savePoints.length < t'.savePoints.length := by
    have := pushed.length_le
    rw [below]
    exact this
  obtain ⟨a, saves, rule, rfl⟩ := (move_turn waits.staged moved).pushes longer
  have same : sn :: rest = (tₖ.save a).savePoints := by
    refine pushed.eq_of_length ?_
    simp only [Thread.save, List.length_cons, below]
  obtain ⟨rfl, rfl⟩ := List.cons.inj same
  cases (resume : a = e.catching)
  cases rule with
  | alternative behind => exact absurd behind closes.catching_not_behind
  | assertion _ _ _ behind => exact absurd behind closes.catching_not_behind
  | atomic opens closes' eq =>
    cases closes.eq_of_catching closes' eq
    exact ⟨k, tₖ, ⟨comesₖ, opens, comesₖ, saves, lt, rfl, stays⟩, rfl⟩
  | catching eq =>
    obtain ⟨t₀, eq', opens, closes', rfl, -, -⟩ := waits.saved
    cases closes.eq_of_catching closes' eq
    obtain ⟨k₀, rfl, entered⟩ := came t₀ eq'
    exact ⟨k₀, t₀, ⟨entered, opens, comesₖ, saves, lt, rfl, stays⟩, rfl⟩

/-- A thread that clears is in the body of a construct, and what it leaves on the stack is what the
construct was entered with. -/
theorem Comes.clears (staged : s.program.WellStaged entries) {n : Nat} {t : Thread}
    (comes : s.Comes n t) {a : Address}
    (known : s.program.operation? t.config.pc.index = some (.clearThrough a)) :
    ∃ e k entry sn, s.program.Closes e ∧ e.mid = t.config.pc.index ∧ e.catching = a ∧
      s.Catches e k n entry sn ∧ sn.callStack.items = t.config.callStack.items ∧
      Snapshot.dropThrough a t.savePoints = some (entry.lead e).savePoints := by
  obtain ⟨before, ⟨⟨σ, outer, waits⟩, -⟩, -⟩ := comes.encloses staged
  obtain ⟨e, d, rfl, rfl, here, closes, -⟩ := waits.staged.rule known
  obtain ⟨above, sn, rest, saved, resume, calls, dropped, -⟩ := Stacked.clear waits.saved
  obtain ⟨k, entry, catches, rfl⟩ := comes.catches staged saved closes resume
  exact ⟨e, k, entry, sn, closes, here.symm, rfl, catches, calls, dropped⟩

/-- The exit of a construct is reached from its `CLEAR_THROUGH`, or by resuming what catches its body. -/
theorem move_exit (staged : s.program.WellStaged entries) {before : Option Thread} {t t' : Thread}
    {σ : Stage} {outer : List (List Enclosure)} {e : Enclosure}
    (waits : t.Waits s.program entries before σ outer) (moved : s.move t = .next t')
    (closes : s.program.Closes e) (exits : t'.config.pc.index = e.exit) :
    t.config.pc.index = e.mid ∨ (t.Resumes t' ∧ t'.config.pc = e.catching) := by
  have there : t'.config.pc = ⟨e.exit⟩ := by rw [← exits]
  have lands (landing : s.program.Landing t'.config.pc) : False :=
    closes.exit_not_landing (there ▸ landing)
  have falls (next : t'.config.pc.index = t.config.pc.index + 1)
      (passes : s.program.operation? t.config.pc.index ≠ some .fail) :
      t.config.pc.index = e.mid ∨ (t.Resumes t' ∧ t'.config.pc = e.catching) := by
    have next : e.exit = t.config.pc.index + 1 := exits.symm.trans next
    rcases closes.exit_cases with behind | ⟨-, i, eq, fail⟩
    · exact .inl (Nat.succ.inj (next.symm.trans behind))
    · cases Nat.succ.inj (next.symm.trans eq)
      exact absurd fail passes
  cases move_turn waits.staged moved with
  | goes passes _ arrives =>
    rcases arrives with next | landing
    · exact falls (congrArg Handle.index next) passes
    · exact (lands landing).elim
  | saves known => exact falls rfl (by simp [known])
  | clears known => exact falls rfl (by simp [known])
  | clearsThrough closes' here => exact falls rfl (by simp [here, closes'.clears])
  | calls _ entered => exact (lands (staged.functions _ entered).1).elim
  | returns eq =>
    have returns := waits.returns
    rw [eq] at returns
    cases returns with
    | cons first _ =>
      obtain ⟨⟨i, b, next, call⟩, -⟩ := first
      have next : e.exit = i + 1 := exits.symm.trans next
      rcases closes.exit_cases with behind | ⟨-, i', eq', fail⟩
      · cases Nat.succ.inj (next.symm.trans behind)
        cases call.symm.trans closes.clears
      · cases Nat.succ.inj (next.symm.trans eq')
        cases call.symm.trans fail
  | resumes resumed =>
    rcases closes.exit_cases with behind | ⟨eq, -⟩
    · obtain ⟨sn, rest, position, saved, rfl⟩ := resumed
      have there : sn.resume = ⟨e.exit⟩ := there
      rcases waits.resumes (saved ▸ List.mem_cons_self) with after | ⟨e', closes', resume, -⟩
      · exact absurd (there ▸ after) closes.exit_not_behind
      · -- In front of a point where a body is caught nothing is cleared.
        have before := closes'.tail.1
        rw [← resume, there, behind] at before
        have clears := before.symm.trans closes.clears
        rcases e' with mid | ⟨_ | _, mid⟩ <;> cases clears
    · exact .inr ⟨resumed, there.trans (congrArg Handle.mk eq.symm)⟩

/-- At the exit of a construct the stack is the one that the construct was entered with, but for what an
assertion has put on it. -/
theorem Comes.exits (staged : s.program.WellStaged entries) {n : Nat} {t : Thread}
    (comes : s.Comes n t) {e : Enclosure} (closes : s.program.Closes e)
    (exits : t.config.pc.index = e.exit) :
    ∃ n' k entry sn, n = n' + 1 ∧ s.Catches e k n' entry sn ∧
      sn.callStack.items = t.config.callStack.items ∧ t.savePoints = (entry.lead e).savePoints := by
  cases n with
  | zero =>
    cases comes
    rcases closes.exit_cases with eq | ⟨-, i, eq, -⟩
    · exact absurd (exits.trans eq) (Nat.succ_ne_zero _).symm
    · exact absurd (exits.trans eq) (Nat.succ_ne_zero _).symm
  | succ n =>
    obtain ⟨t₀, comes₀, moved⟩ := after_succ.mp comes
    have comes₀ : s.Comes n t₀ := comes₀
    obtain ⟨before, ⟨⟨σ, outer, waits⟩, -⟩, -⟩ := comes₀.encloses staged
    rcases move_exit staged waits moved closes exits with here | ⟨resumed, there⟩
    · have known := closes.clears
      rw [← here] at known
      obtain ⟨e', k, entry, sn, closes', -, same, catches, calls, dropped⟩ :=
        comes₀.clears staged known
      cases closes'.eq_of_catching closes same
      obtain ⟨-, op, known', moved⟩ := move_next moved
      cases known.symm.trans known'
      simp only [effect, Thread.obey, dropped] at moved
      cases moved
      exact ⟨n, k, entry, sn, rfl, catches, calls, rfl⟩
    · obtain ⟨sn, rest, position, saved, rfl⟩ := resumed
      have top : t₀.savePoints = [] ++ sn :: rest := saved
      obtain ⟨k, entry, catches, rfl⟩ := comes₀.catches staged top closes there
      exact ⟨n, k, entry, sn, rfl, catches, rfl, rfl⟩

end Search

end PatternMachine

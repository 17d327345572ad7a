import PatternMachine.Proofs.Machine.Frame
import PatternMachine.Proofs.Machine.Run

/-! Where save points come from. Each of them was pushed in some cycle onto those that are below it, and all
of these have stayed there since. -/
namespace PatternMachine

/-! ### Stacks over time -/

section

variable {α : Type} {stack : Nat → List α} {n : Nat}

/-- What is on a stack that was empty was pushed once and has stayed since. -/
theorem exists_pushed (empty : stack 0 = [])
    (steps : ∀ j < n, (∃ x, stack (j + 1) = x :: stack j) ∨ stack (j + 1) <:+ stack j)
    {above below : List α} {x : α} (h : stack n = above ++ x :: below) :
    ∃ k < n, stack k = below ∧ ∀ j, k < j → j ≤ n → (x :: below) <:+ stack j := by
  induction n generalizing above with
  | zero =>
    rw [empty] at h
    exact absurd h.symm (List.append_ne_nil_of_right_ne_nil above (List.cons_ne_nil x below))
  | succ n ih =>
    have here : (x :: below) <:+ stack (n + 1) := ⟨above, h.symm⟩
    have earlier {newer : List α} (before : stack n = newer ++ x :: below) :
        ∃ k < n + 1, stack k = below ∧ ∀ j, k < j → j ≤ n + 1 → (x :: below) <:+ stack j := by
      obtain ⟨k, lt, there, stays⟩ := ih (fun j lt => steps j (Nat.lt_succ_of_lt lt)) before
      refine ⟨k, Nat.lt_succ_of_lt lt, there, fun j above below => ?_⟩
      rcases Nat.eq_or_lt_of_le below with rfl | below
      · exact here
      · exact stays j above (Nat.le_of_lt_succ below)
    rcases steps n (Nat.lt_succ_self n) with ⟨y, pushed⟩ | ⟨dropped, eq⟩
    · cases above with
      | nil =>
        obtain ⟨rfl, rfl⟩ := List.cons.inj (pushed.symm.trans h)
        refine ⟨n, Nat.lt_succ_self n, rfl, fun j above below => ?_⟩
        cases Nat.le_antisymm below above
        exact here
      | cons z above => exact earlier (List.cons.inj (pushed.symm.trans h)).2
    · have before : stack n = (dropped ++ above) ++ x :: below := by
        rw [← eq, h, List.append_assoc]
      exact earlier before

end

/-- The save points that a move leads to. -/
def Move.savePoints : Move → List Snapshot
  | .next t => t.savePoints
  | .accepted _ | .failed | .stuck => []

/-! ### Machines -/

namespace Search

variable {E : Type} {s : Search E} {m m' : Machine}

theorem obey_saved {e : Effect} (obeyed : s.obey m e = .next m') :
    (∃ sp, m'.savePoints.items = sp :: m.savePoints.items) ∨
      m'.savePoints.items <:+ m.savePoints.items := by
  by_cases accepts : e = .accept
  · subst accepts
    cases obeyed
    exact .inr (List.suffix_refl _)
  by_cases saves : ∃ resume position, e = .save resume position
  · obtain ⟨resume, position, rfl⟩ := saves
    cases obeyed
    unfold pushSavePoint
    split
    · exact .inl ⟨_, rfl⟩
    · obtain ⟨log, eq⟩ := s.halt_eq m (.backtrackLimitExceeded s.settings.maxSavePoints)
      rw [eq]
      exact .inr (List.suffix_refl _)
  · have keeps := s.obey_keeps m (fun resume position eq => saves ⟨resume, position, eq⟩) accepts
    rw [obeyed] at keeps
    exact .inr keeps.saved

variable [DecidableEq E]

theorem cycle_saved (cycled : s.cycle m = .next m') :
    (∃ sp, m'.savePoints.items = sp :: m.savePoints.items) ∨
      m'.savePoints.items <:+ m.savePoints.items := by
  obtain ⟨-, ⟨e, rfl⟩ | turned⟩ := cycle_halt_or_turn cycled
  · obtain ⟨log, eq⟩ := s.halt_eq m e
    rw [eq]
    exact .inr (List.suffix_refl _)
  · obtain ⟨log, op, obeyed⟩ := turn_next turned
    exact obey_saved (m := { m with log, cycles := m.cycles + 1 }) obeyed

/-- Before a run has come to a machine in progress, it has come to such machines. -/
theorem runFor_before {j n : Nat} (ran : s.runFor n m = .next m') (live : m'.status = .inProgress)
    (le : j ≤ n) : ∃ mⱼ, s.runFor j m = .next mⱼ ∧ mⱼ.status = .inProgress := by
  obtain ⟨k, rfl⟩ := Nat.exists_eq_add_of_le le
  cases before : s.runFor j m with
  | fault f mⱼ =>
    rw [runFor_append, before] at ran
    cases ran
  | next mⱼ =>
    rw [runFor_add before] at ran
    refine ⟨mⱼ, rfl, Decidable.byContradiction fun halted => ?_⟩
    rw [runFor_halted k halted] at ran
    cases ran
    exact halted live

/-- The save point was pushed in cycle `k` onto those below it, and all of them have stayed there until
cycle `n`. -/
structure PushedIn (s : Search E) (k n : Nat) (sp : SavePoint) (below : List SavePoint) : Prop where
  before : k < n
  pushed : ∃ mₖ, s.runFor k s.start = .next mₖ ∧ mₖ.savePoints.items = below
  stays : ∀ j mⱼ, k < j → j ≤ n → s.runFor j s.start = .next mⱼ →
    (sp :: below) <:+ mⱼ.savePoints.items

/-- Every save point was pushed in some cycle. -/
theorem exists_pushedIn {n : Nat} (ran : s.runFor n s.start = .next m) (live : m.status = .inProgress)
    {above below : List SavePoint} {sp : SavePoint}
    (saved : m.savePoints.items = above ++ sp :: below) : ∃ k, s.PushedIn k n sp below := by
  let stack (j : Nat) : List SavePoint := (s.runFor j s.start).machine.savePoints.items
  have there {j : Nat} {mⱼ : Machine} (ran : s.runFor j s.start = .next mⱼ) :
      stack j = mⱼ.savePoints.items := by
    simp only [stack, ran, Step.machine]
  have steps : ∀ j < n, (∃ x, stack (j + 1) = x :: stack j) ∨ stack (j + 1) <:+ stack j := by
    intro j lt
    obtain ⟨mⱼ, ranⱼ, liveⱼ⟩ := runFor_before ran live (Nat.le_of_lt lt)
    obtain ⟨next, ran', -⟩ := runFor_before ran live (Nat.succ_le_of_lt lt)
    have cycled : s.cycle mⱼ = .next next := by
      rw [← runFor_one liveⱼ, ← runFor_add ranⱼ, ran']
    rw [there ran', there ranⱼ]
    exact cycle_saved cycled
  obtain ⟨k, lt, below, stays⟩ := exists_pushed rfl steps ((there ran).trans saved)
  obtain ⟨mₖ, ranₖ, -⟩ := runFor_before ran live (Nat.le_of_lt lt)
  refine ⟨k, lt, ⟨mₖ, ranₖ, (there ranₖ).symm.trans below⟩, fun j mⱼ above le ranⱼ => ?_⟩
  rw [← there ranⱼ]
  exact stays j above le

/-- After `n` cycles, some of the save points have been pushed in cycle `k` or later, and those below them
before. -/
structure SplitsAt (s : Search E) (k n : Nat) (m : Machine) (newer older : List SavePoint) :
    Prop where
  split : m.savePoints.items = newer ++ older
  since : ∀ above sp below, newer = above ++ sp :: below →
    ∃ k', k ≤ k' ∧ s.PushedIn k' n sp (below ++ older)
  earlier : ∀ above sp below, older = above ++ sp :: below → ∃ k', k' < k ∧ s.PushedIn k' n sp below

/-- What lies on top of what a save point was pushed onto, is this save point and what came later. -/
theorem PushedIn.splits {k n : Nat} {sp : SavePoint} {older : List SavePoint}
    (h : s.PushedIn k n sp older) (ran : s.runFor n s.start = .next m) (live : m.status = .inProgress) :
    ∃ above, s.SplitsAt k n m (above ++ [sp]) older := by
  obtain ⟨above, eq⟩ := h.stays n m h.before (Nat.le_refl n) ran
  obtain ⟨mₖ, ranₖ, savedₖ⟩ := h.pushed
  have split : m.savePoints.items = (above ++ [sp]) ++ older := by
    rw [← eq, List.append_assoc, List.singleton_append]
  refine ⟨above, split, fun newer sp' below eq' => ?_, fun newer sp' below eq' => ?_⟩
  · have saved : m.savePoints.items = newer ++ sp' :: (below ++ older) := by
      rw [split, eq', List.append_assoc, List.cons_append]
    obtain ⟨k', pushed⟩ := exists_pushedIn ran live saved
    refine ⟨k', Nat.le_of_not_lt fun before => ?_, pushed⟩
    -- Otherwise it would have been on the stack that `sp` was pushed onto.
    have le := (pushed.stays k mₖ before (Nat.le_of_lt h.before) ranₖ).length_le
    simp only [savedₖ, List.length_cons, List.length_append] at le
    omega
  · have saved : m.savePoints.items = (above ++ [sp] ++ newer) ++ sp' :: below := by
      rw [split, eq', List.append_assoc (above ++ [sp])]
    obtain ⟨k', pushed⟩ := exists_pushedIn ran live saved
    obtain ⟨m₀, ran₀, saved₀⟩ := pushed.pushed
    refine ⟨k', Nat.lt_of_not_le fun behind => ?_, pushed⟩
    have shorter : below.length < older.length := by
      rw [eq', List.length_append, List.length_cons]
      omega
    rcases Nat.eq_or_lt_of_le behind with rfl | behind
    · rw [ranₖ] at ran₀
      cases ran₀
      rw [← savedₖ, saved₀] at shorter
      exact Nat.lt_irrefl _ shorter
    · have le := (h.stays k' m₀ behind (Nat.le_of_lt pushed.before) ran₀).length_le
      simp only [saved₀, List.length_cons] at le
      omega

/-! ### Threads -/

theorem after_succ {n : Nat} {t t' : Thread} :
    s.after (n + 1) (.next t) = .next t' ↔
      ∃ before, s.after n (.next t) = .next before ∧ s.move before = .next t' := by
  rw [after_add n 1]
  cases s.after n (.next t) with
  | next before => simp
  | _ => simp [after_end]

theorem after_before {j n : Nat} {t t' : Thread} (there : s.after n (.next t) = .next t')
    (le : j ≤ n) : ∃ tⱼ, s.after j (.next t) = .next tⱼ := by
  obtain ⟨k, rfl⟩ := Nat.exists_eq_add_of_le le
  rw [after_add] at there
  cases before : s.after j (.next t) with
  | next tⱼ => exact ⟨tⱼ, rfl⟩
  | _ =>
    rw [before, after_end k (by simp)] at there
    cases there

/-- Every copy was pushed by some move, and has stayed since, with those below it. -/
theorem after_pushed {n : Nat} {t₀ t : Thread} (empty : t₀.savePoints = [])
    (there : s.after n (.next t₀) = .next t) {above below : List Snapshot} {sn : Snapshot}
    (saved : t.savePoints = above ++ sn :: below) :
    ∃ k < n, (∃ tₖ, s.after k (.next t₀) = .next tₖ ∧ tₖ.savePoints = below) ∧
      ∀ j tⱼ, k < j → j ≤ n → s.after j (.next t₀) = .next tⱼ → (sn :: below) <:+ tⱼ.savePoints := by
  let stack (j : Nat) : List Snapshot := (s.after j (.next t₀)).savePoints
  have at_ {j : Nat} {tⱼ : Thread} (there : s.after j (.next t₀) = .next tⱼ) :
      stack j = tⱼ.savePoints := by
    simp only [stack, there, Move.savePoints]
  have steps : ∀ j < n, (∃ x, stack (j + 1) = x :: stack j) ∨ stack (j + 1) <:+ stack j := by
    intro j lt
    obtain ⟨next, there'⟩ := after_before there (Nat.succ_le_of_lt lt)
    obtain ⟨tⱼ, thereⱼ, moved⟩ := after_succ.mp there'
    rw [at_ there', at_ thereⱼ]
    exact move_saved moved
  have start : stack 0 = [] := (at_ (after_zero _)).trans empty
  obtain ⟨k, lt, below, stays⟩ := exists_pushed start steps ((at_ there).trans saved)
  obtain ⟨tₖ, thereₖ⟩ := after_before there (Nat.le_of_lt lt)
  refine ⟨k, lt, ⟨tₖ, thereₖ, (at_ thereₖ).symm.trans below⟩, fun j tⱼ above le thereⱼ => ?_⟩
  rw [← at_ thereⱼ]
  exact stays j above le

end Search

end PatternMachine

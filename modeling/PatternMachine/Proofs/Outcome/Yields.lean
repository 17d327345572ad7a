import PatternMachine.Proofs.Machine.Bounds
import PatternMachine.Proofs.Machine.Run
import PatternMachine.Proofs.Outcome.Unfolding

/-! What becomes of a thread that enters a piece of code: it comes to the end of the piece with one
moment, and each time that the latest of what it has saved there is resumed, it comes to the end with
the next one. After the last moment it falls back to what was saved before it entered. Where it is not
known what comes next, nothing is said about the thread. -/
namespace PatternMachine

variable {E : Type}

/-- What a piece of code may leave behind. -/
structure Footprint where
  /-- Where its save points resume. -/
  resumes : Address → Prop
  /-- The position registers that it sets. -/
  sets : PositionRegister → Prop

structure Footprint.Le (f f' : Footprint) : Prop where
  resumes : ∀ a, f.resumes a → f'.resumes a
  sets : ∀ r, f.sets r → f'.sets r

namespace Registers

def values (r : Registers) : List (Option Span) := r.captures.toList.map (·.value)

def opened (r : Registers) : List (List Nat) := r.captures.toList.map (·.opened)

end Registers

namespace Thread

/-- The thread stands at an address, with what the moment says. -/
structure At (t : Thread) (s : Search E) (i : Nat) (m : Moment) : Prop where
  pc : t.config.pc.index = i
  position : t.config.position = m.position
  captures : t.config.registers.values = m.captures
  within : t.Within s

/-- `t` comes from `t₀`, and `own` is what it has saved since then. -/
structure Leaves (f : Footprint) (own : List Snapshot) (t₀ t : Thread) : Prop where
  calls : t.config.callStack = t₀.config.callStack
  saved : t.savePoints = own ++ t₀.savePoints
  /-- A position register keeps its value, or holds a position that was passed since then. -/
  positions : ∀ r : PositionRegister,
    t.config.registers.positions[r.index]? = t₀.config.registers.positions[r.index]? ∨
      f.sets r ∧ ∃ passed, t.config.registers.positions[r.index]? = some passed ∧
        t₀.config.position ≤ passed ∧ passed ≤ t.config.position
  forward : t₀.config.position ≤ t.config.position
  opened : t.config.registers.opened = t₀.config.registers.opened
  /-- Every save point has a position of its own. -/
  resumes : ∀ sn ∈ own, f.resumes sn.resume ∧ sn.position.isSome

namespace Leaves

variable {f f' : Footprint} {own own' : List Snapshot} {t₀ t t' : Thread}

theorem refl (t : Thread) : Leaves f [] t t :=
  ⟨rfl, rfl, fun _ => .inl rfl, Nat.le_refl _, rfl, List.forall_mem_nil _⟩

theorem trans (h : Leaves f own t₀ t) (h' : Leaves f own' t t') :
    Leaves f (own' ++ own) t₀ t' where
  calls := h'.calls.trans h.calls
  saved := by rw [h'.saved, h.saved, List.append_assoc]
  positions r := by
    rcases h'.positions r with same | ⟨sets, passed, now, above, below⟩
    · rcases h.positions r with same' | ⟨sets, passed, before, above, below⟩
      · exact .inl (same.trans same')
      · exact .inr ⟨sets, passed, same.trans before, above, Nat.le_trans below h'.forward⟩
    · exact .inr ⟨sets, passed, now, Nat.le_trans h.forward above, below⟩
  forward := Nat.le_trans h.forward h'.forward
  opened := h'.opened.trans h.opened
  resumes sn member := by
    rcases List.mem_append.mp member with member | member
    · exact h'.resumes sn member
    · exact h.resumes sn member

theorem mono (le : f.Le f') (h : Leaves f own t₀ t) : Leaves f' own t₀ t :=
  { h with
    positions := fun r => (h.positions r).imp_right fun ⟨sets, passed⟩ => ⟨le.sets r sets, passed⟩
    resumes := fun sn member => (h.resumes sn member).imp_left (le.resumes _) }

/-- Where a thread falls to that has saved something does not depend on where it fails. -/
theorem fall_eq {sn : Snapshot} (h : Leaves f (sn :: own) t₀ t) (position position' : Nat) :
    Move.fall position t.savePoints = Move.fall position' t.savePoints := by
  obtain ⟨-, marked⟩ := h.resumes sn List.mem_cons_self
  obtain ⟨q, saved⟩ := Option.isSome_iff_exists.mp marked
  rw [h.saved, List.cons_append, Move.fall, Move.fall, Snapshot.config, Snapshot.config, saved]
  rfl

end Leaves

end Thread

variable [DecidableEq E] {s : Search E}

/-! ### Reaching -/

namespace Search

/-- Some moves lead from one to the other. -/
def Reaches (s : Search E) (x y : Move) : Prop := ∃ n, s.after n x = y

namespace Reaches

variable {x y z : Move}

theorem refl (x : Move) : s.Reaches x x := ⟨0, after_zero x⟩

theorem trans (h : s.Reaches x y) (h' : s.Reaches y z) : s.Reaches x z := by
  obtain ⟨m, rfl⟩ := h
  obtain ⟨n, rfl⟩ := h'
  exact ⟨m + n, after_add m n x⟩

theorem move {t : Thread} (h : s.move t = x) : s.Reaches (.next t) x :=
  ⟨1, by rw [after_next, after_zero, h]⟩

end Reaches

end Search

/-! ### Yielding -/

/-- From `x`, a thread that entered as `t₀` comes to the end `hi` with one moment after the other. -/
inductive Yields (s : Search E) (f : Footprint) (hi : Nat) (t₀ : Thread) : Unfolding → Move → Prop
  | ends {x : Move} {position : Nat} :
    s.Reaches x (.fall position t₀.savePoints) → Yields s f hi t₀ .done x
  | unknown {x : Move} : Yields s f hi t₀ .unknown x
  | comes {x : Move} {t : Thread} {own : List Snapshot} {m : Moment} {rest : Unfolding} :
    s.Reaches x (.next t) → t.At s hi m → Thread.Leaves f own t₀ t →
    (∀ position, Yields s f hi t₀ rest (.fall position t.savePoints)) →
    Yields s f hi t₀ (.more m rest) x

namespace Yields

variable {f f' : Footprint} {lo mid hi : Nat} {t₀ t : Thread} {own : List Snapshot}
  {m : Moment} {w w' : Unfolding} {x y : Move}

/-- A thread that has saved nothing falls where it would have fallen before. -/
theorem falls (leaves : Thread.Leaves f [] t₀ t) (position : Nat) :
    s.Reaches (.fall position t.savePoints) (.fall position t₀.savePoints) := by
  rw [leaves.saved]
  exact .refl _

theorem mono (le : f.Le f') (h : Yields s f hi t₀ w x) : Yields s f' hi t₀ w x := by
  induction h with
  | ends reach => exact .ends reach
  | unknown => exact .unknown
  | comes reach stands leaves _ ih => exact .comes reach stands (leaves.mono le) ih

/-- Moves before it change nothing. -/
theorem reached (reach : s.Reaches y x) (h : Yields s f hi t₀ w x) : Yields s f hi t₀ w y := by
  cases h with
  | ends after => exact .ends (reach.trans after)
  | unknown => exact .unknown
  | comes after stands leaves rest => exact .comes (reach.trans after) stands leaves rest

/-- The end is reached once. -/
theorem once (reach : s.Reaches x (.next t)) (stands : t.At s hi m)
    (leaves : Thread.Leaves f [] t₀ t) : Yields s f hi t₀ (.ofList [m]) x := by
  exact .comes reach stands leaves fun position => .ends (falls leaves position)

/-- What comes later belongs to what was saved by the thread that goes on. -/
theorem append (h : Yields s f hi t w x) (leaves : Thread.Leaves f own t₀ t)
    (later : ∀ position, Yields s f hi t₀ w' (.fall position t.savePoints)) :
    Yields s f hi t₀ (w.append w') x := by
  induction h with
  | ends reach => exact (later _).reached reach
  | unknown => exact .unknown
  | comes reach stands inner _ ih => exact .comes reach stands (leaves.trans inner) ih

/-- A thread that enters with the same save points. -/
theorem rebase (h : Yields s f hi t w x) (leaves : Thread.Leaves f [] t₀ t) :
    Yields s f hi t₀ w x := by
  have whole : Yields s f hi t₀ (w.append .done) x :=
    h.append leaves fun position => .ends (falls leaves position)
  rwa [Unfolding.append_done] at whole

/-- One piece after the other. -/
theorem bind {o : Ways} (le : f.Le f') (h : Yields s f mid t₀ w x)
    (on : ∀ t own m, m ∈ w.known → t.At s mid m → Thread.Leaves f own t₀ t →
      Yields s f' hi t (o m) (.next t)) : Yields s f' hi t₀ (w.bind o) x := by
  induction h with
  | ends reach => exact .ends reach
  | unknown => exact .unknown
  | comes reach stands leaves _ ih =>
    have first := (on _ _ _ List.mem_cons_self stands leaves).reached reach
    refine first.append (leaves.mono le) fun position => ih position ?_
    intro t own m member
    exact on t own m (List.mem_cons_of_mem _ member)

/-- A piece that ends with an instruction that never fails. -/
theorem map {g : Moment → Moment} (h : Yields s f mid t w x)
    (saved : t.savePoints = t₀.savePoints)
    (on : ∀ t' own m, t'.At s mid m → Thread.Leaves f own t t' →
      ∃ t'', s.move t' = .next t'' ∧ t''.At s hi (g m) ∧ Thread.Leaves f' own t₀ t'') :
    Yields s f' hi t₀ (w.map g) x := by
  induction h with
  | ends reach =>
    rw [saved] at reach
    exact .ends reach
  | unknown => exact .unknown
  | comes reach stands leaves _ ih =>
    obtain ⟨t'', moved, stands', leaves'⟩ := on _ _ _ stands leaves
    have same : t''.savePoints = _ ++ t.savePoints := leaves'.saved.trans (by rw [saved])
    refine .comes (reach.trans (.move moved)) stands' leaves' fun position => ?_
    rw [same, ← leaves.saved]
    exact ih position

/-- A thread comes to the end with everything that is known. -/
theorem stands (h : Yields s f hi t₀ w x) (member : m ∈ w.known) : ∃ t : Thread, t.At s hi m := by
  induction h with
  | ends => cases member
  | unknown => cases member
  | comes _ stands _ _ ih =>
    rcases List.mem_cons.mp member with rfl | member
    · exact ⟨_, stands⟩
    · exact ih 0 member

/-- Nothing that is known lies before where the thread entered. -/
theorem forward (h : Yields s f hi t₀ w x) (member : m ∈ w.known) :
    t₀.config.position ≤ m.position := by
  induction h with
  | ends => cases member
  | unknown => cases member
  | comes _ stands leaves _ ih =>
    rcases List.mem_cons.mp member with rfl | member
    · exact stands.position ▸ leaves.forward
    · exact ih 0 member

end Yields

/-- A thread that enters the piece comes to its end in these ways. -/
def Search.Implements (s : Search E) (f : Footprint) (lo hi : Nat) (o : Ways) : Prop :=
  ∀ t m, t.At s lo m → Yields s f hi t (o m) (.next t)

end PatternMachine

import PatternMachine.Proofs.Machine.Snapshot

/-! The trail brings back what full copies would. A save point of the machine stands for a copy if
undoing the changes noted above it leads from what there is now to the copy. Every effect keeps this,
so the two machines never differ in anything that can be seen. -/
namespace PatternMachine

/-- What changes are noted for. -/
structure Mutable where
  registers : Registers
  callStack : Stack Address

def Undo.revert : Undo → Mutable → Mutable
  | .bool register old, k => { k with registers := k.registers.setBool register old }
  | .position register old, k => { k with registers := k.registers.setPosition register old }
  | .beginCapture register, k => { k with registers := k.registers.dropCapture register }
  | .endCapture register start old, k =>
    { k with registers := k.registers.reopenCapture register start old }
  | .call, k => { k with callStack := ((k.callStack.pop?).map (·.2)).getD .empty }
  | .ret address, k => { k with callStack := k.callStack.push address }

/-- Undoes changes, the latest of which stands first. -/
def revertAll : List Undo → Mutable → Mutable
  | [], k => k
  | u :: us, k => revertAll us (u.revert k)

theorem revertAll_append (us vs : List Undo) (k : Mutable) :
    revertAll (us ++ vs) k = revertAll vs (revertAll us k) := by
  induction us generalizing k with
  | nil => rfl
  | cons u us ih => exact ih (u.revert k)

def Configuration.mutable (c : Configuration) : Mutable := ⟨c.registers, c.callStack⟩

def Snapshot.mutable (sn : Snapshot) : Mutable := ⟨sn.registers, sn.callStack⟩

/-! ### Every change can be taken back -/

namespace Registers

theorem setBool_setBool {r : Registers} {register : BoolRegister} {old : Bool}
    (h : r.bools[register.index]? = some old) (value : Bool) :
    (r.setBool register value).setBool register old = r := by
  obtain ⟨bound, rfl⟩ := Array.getElem?_eq_some_iff.mp h
  simp [setBool, Array.setIfInBounds, bound]

theorem setPosition_setPosition {r : Registers} {register : PositionRegister} {old : Nat}
    (h : r.positions[register.index]? = some old) (value : Nat) :
    (r.setPosition register value).setPosition register old = r := by
  obtain ⟨bound, rfl⟩ := Array.getElem?_eq_some_iff.mp h
  simp [setPosition, Array.setIfInBounds, bound]

theorem modifyCapture_modifyCapture {r : Registers} {register : CaptureRegister}
    {f g : Capture → Capture} {capture : Capture}
    (h : r.captures[register.index]? = some capture) (back : g (f capture) = capture) :
    (r.modifyCapture register f).modifyCapture register g = r := by
  obtain ⟨bound, rfl⟩ := Array.getElem?_eq_some_iff.mp h
  cases r
  simp only [modifyCapture, mk.injEq, true_and]
  apply Array.ext
  · simp
  · intro i _ hi
    by_cases same : register.index = i
    · subst same; simpa [Array.getElem_modify] using back
    · simp [Array.getElem_modify, same]

theorem dropCapture_openCapture {r : Registers} {register : CaptureRegister} {capture : Capture}
    (h : r.captures[register.index]? = some capture) (start : Nat) :
    (r.openCapture register start).dropCapture register = r :=
  modifyCapture_modifyCapture h rfl

theorem reopenCapture_closeCapture {r : Registers} {register : CaptureRegister} {start : Nat}
    {opened : List Nat} {old : Option Span}
    (h : r.captures[register.index]? = some ⟨start :: opened, old⟩) (value : Span) :
    (r.closeCapture register value).reopenCapture register start old = r :=
  modifyCapture_modifyCapture h rfl

end Registers

theorem Stack.push_of_pop? {α : Type} {s t : Stack α} {a : α} (h : s.pop? = some (a, t)) :
    t.push a = s := by
  obtain ⟨items, depth, eq⟩ := s
  cases items with
  | nil => simp [pop?] at h
  | cons b rest =>
    simp only [pop?, Option.some.injEq, Prod.mk.injEq] at h
    obtain ⟨rfl, rfl⟩ := h
    exact Stack.ext rfl

namespace Search

variable {E : Type}

theorem assignment_reverts {c next : Configuration} {register : BoolRegister} {value : Bool} {u : Undo}
    (h : assignment c register value = .change next u) : u.revert next.mutable = c.mutable := by
  unfold assignment at h
  split at h
  · cases h
  next old stored =>
    cases h
    simp [Undo.revert, Configuration.mutable, Configuration.advance, Registers.setBool_setBool stored]

theorem acceptance_ne_change (s : Search E) (c next : Configuration) (u : Undo) :
    s.acceptance c ≠ .change next u := by
  unfold acceptance
  split <;> simp

/-- The entry that comes with a change takes it back. -/
theorem effect_reverts [DecidableEq E] {s : Search E} {c next : Configuration} {op : Operation} {u : Undo}
    (h : s.effect c op = .change next u) : u.revert next.mutable = c.mutable := by
  cases op <;> simp only [effect, consumption] at h
  case assertion element condition =>
    split at h
    · cases h
    · exact assignment_reverts h
  case comparePosition register condition =>
    split at h
    · cases h
    · exact assignment_reverts h
  case movePosition register =>
    split at h
    · cases h
    next old stored =>
      cases h
      simp [Undo.revert, Configuration.mutable, Configuration.advance, Registers.setPosition_setPosition stored]
  case beginCapture register =>
    split at h
    · cases h
    next capture stored =>
      cases h
      simp [Undo.revert, Configuration.mutable, Configuration.advance,
        Registers.dropCapture_openCapture stored]
  case endCapture register =>
    split at h
    · cases h
    · cases h
    next start opened old stored =>
      cases h
      simp [Undo.revert, Configuration.mutable, Configuration.advance,
        Registers.reopenCapture_closeCapture stored]
  case call target =>
    cases h
    simp [Undo.revert, Configuration.mutable]
  case ret =>
    split at h
    · exact absurd h (acceptance_ne_change s c next u)
    next address callStack popped =>
      cases h
      simp [Undo.revert, Configuration.mutable, Stack.push_of_pop? popped]
  case accept => exact absurd h (acceptance_ne_change s c next u)
  all_goals
    repeat' split at h
    all_goals cases h

end Search

/-! ### Save points that stand for copies -/

/-- The save points of a machine stand for the given copies. Below the lowest one nothing is
noted. -/
inductive Restores : Mutable → List Undo → List SavePoint → List Snapshot → Prop
  | none {k} : Restores k [] [] []
  | some {k newer older sp sn saved copies} :
      sp.resume = sn.resume → sp.position = sn.position → sp.callDepth = sn.callStack.depth →
      sp.trailEnd = older.length → revertAll newer k = sn.mutable →
      Restores sn.mutable older saved copies →
      Restores k (newer ++ older) (sp :: saved) (sn :: copies)

namespace Restores

variable {k : Mutable} {trail : List Undo} {sp : SavePoint} {saved : List SavePoint}
  {sn : Snapshot} {copies : List Snapshot}

theorem length_eq (h : Restores k trail saved copies) : saved.length = copies.length := by
  induction h with
  | none => rfl
  | some _ _ _ _ _ _ ih => simp [ih]

theorem trail_nil (h : Restores k trail [] copies) : trail = [] ∧ copies = [] := by
  cases h; exact ⟨rfl, rfl⟩

theorem note {k' : Mutable} {u : Undo} (h : Restores k trail (sp :: saved) copies)
    (back : u.revert k' = k) : Restores k' (u :: trail) (sp :: saved) copies := by
  cases h with
  | @some _ newer older _ sn _ _ resume position depth trailEnd reverted below =>
    have reverted : revertAll (u :: newer) k' = sn.mutable := by rw [revertAll, back, reverted]
    exact some resume position depth trailEnd reverted below

theorem save (h : Restores k trail saved copies) (resume : Address) (position : Option Nat) :
    Restores k trail (⟨resume, position, k.callStack.depth, trail.length⟩ :: saved)
      (⟨resume, position, k.registers, k.callStack⟩ :: copies) :=
  @some k [] trail _ _ _ _ rfl rfl rfl rfl rfl h

/-- Without the latest save point the entries above it belong to the one below. -/
theorem drop (h : Restores k trail (sp :: saved) (sn :: copies)) (more : saved ≠ []) :
    Restores k trail saved copies := by
  cases h with
  | @some _ newer _ _ _ _ _ _ _ _ _ reverted rest =>
    cases rest with
    | none => exact absurd rfl more
    | @some _ newer' older _ _ _ _ resume position depth trailEnd reverted' rest =>
      rw [← List.append_assoc]
      refine some resume position depth trailEnd ?_ rest
      rw [revertAll_append, reverted, reverted']

/-- What is left of the trail when save points are dropped. -/
def kept (trail : List Undo) (saved : List SavePoint) : List Undo :=
  if saved.isEmpty then [] else trail

theorem drop_kept (h : Restores k trail (sp :: saved) (sn :: copies)) :
    Restores k (kept trail saved) saved copies := by
  cases saved with
  | nil =>
    have copies_nil : copies = [] := by simpa using h.length_eq.symm
    subst copies_nil
    exact none
  | cons sp' saved => exact h.drop (by simp)

end Restores

end PatternMachine

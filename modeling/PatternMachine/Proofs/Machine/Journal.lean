import PatternMachine.Proofs.Machine.Thread

/-! A journal of the iterations that are checked for progress. Every activation of a function has its own
open iterations there, while the machine has one register for all activations of a loop. The machine
does not read the journal; save points bring it back with everything else. -/
namespace PatternMachine

/-- An iteration that has started and is still to be checked. -/
structure Iteration where
  register : PositionRegister
  start : Nat
  deriving DecidableEq, Repr

structure Journal where
  /-- The open iterations of the current activation, the innermost first. -/
  current : List Iteration
  /-- Those of the activations that are waiting for it. -/
  outer : List (List Iteration)
  /-- Where the latest iteration of a loop has started, in whatever activation. -/
  latest : PositionRegister → Option Nat

namespace Journal

def empty : Journal := ⟨[], [], fun _ => none⟩

/-- An activation has ended. -/
def back : Journal → Journal
  | ⟨_, current :: outer, latest⟩ => ⟨current, outer, latest⟩
  | j => j

/-- The journal after an operation that is done at a position. -/
def note (j : Journal) (position : Nat) : Operation → Journal
  | .call _ => { j with current := [], outer := j.current :: j.outer }
  | .ret => j.back
  | .movePosition register =>
    { j with
      current := ⟨register, position⟩ :: j.current
      latest := fun r => if r = register then some position else j.latest r }
  | .comparePosition _ _ => { j with current := j.current.tail }
  | _ => j

/-- The open iterations of all activations. -/
def opened (j : Journal) : List Iteration := j.current ++ j.outer.flatten

/-- The journal is true of a configuration: registers hold the latest starts, and nothing has started
behind the position or later than the latest. -/
structure Within (j : Journal) (c : Configuration) : Prop where
  latest : ∀ r start, j.latest r = some start →
    c.registers.positions[r.index]? = some start ∧ start ≤ c.position
  opened : ∀ it ∈ j.opened, ∃ start, j.latest it.register = some start ∧ it.start ≤ start

namespace Within

variable {j : Journal} {c c' : Configuration}

theorem empty (c : Configuration) : Journal.empty.Within c := ⟨nofun, nofun⟩

/-- Position registers that stay and a position that does not go back. -/
theorem mono (h : j.Within c) (same : c'.registers.positions = c.registers.positions)
    (le : c.position ≤ c'.position) : j.Within c' := by
  refine ⟨fun r start known => ?_, h.opened⟩
  obtain ⟨holds, below⟩ := h.latest r start known
  exact ⟨same ▸ holds, Nat.le_trans below le⟩

theorem call (h : j.Within c) (target : Address) : (j.note c.position (.call target)).Within c :=
  ⟨h.latest, h.opened⟩

theorem ret (h : j.Within c) : (j.note c.position .ret).Within c := by
  obtain ⟨current, outer, latest⟩ := j
  cases outer with
  | nil => exact h
  | cons waiting outer =>
    exact ⟨h.latest, fun it member => h.opened it (List.mem_append_right _ member)⟩

theorem comparePosition (h : j.Within c) (register : PositionRegister) (stuck : BoolRegister) :
    (j.note c.position (.comparePosition register stuck)).Within c := by
  refine ⟨h.latest, fun it member => ?_⟩
  rcases List.mem_append.mp member with member | member
  · exact h.opened it (List.mem_append_left _ (List.mem_of_mem_tail member))
  · exact h.opened it (List.mem_append_right _ member)

theorem movePosition (h : j.Within c) {register : PositionRegister}
    (bound : register.index < c.registers.positions.size)
    (positions : c'.registers.positions =
      c.registers.positions.setIfInBounds register.index c.position)
    (position : c'.position = c.position) :
    (j.note c.position (.movePosition register)).Within c' := by
  refine ⟨fun r start known => ?_, fun it member => ?_⟩
  · rw [positions, position]
    by_cases same : r = register
    · subst same
      have here : some c.position = some start := by simpa [note] using known
      cases here
      exact ⟨Array.getElem?_setIfInBounds_self_of_lt bound, Nat.le_refl _⟩
    · have before : j.latest r = some start := by simpa [note, same] using known
      have apart : register.index ≠ r.index := fun eq => same (congrArg Handle.mk eq.symm)
      rw [Array.getElem?_setIfInBounds_ne apart]
      exact h.latest r start before
  · rcases List.mem_cons.mp member with rfl | member
    · exact ⟨c.position, if_pos rfl, Nat.le_refl _⟩
    · obtain ⟨start, known, le⟩ := h.opened it member
      by_cases same : it.register = register
      · exact ⟨c.position, if_pos same, Nat.le_trans le (h.latest _ _ known).2⟩
      · exact ⟨start, (if_neg same).trans known, le⟩

end Within

end Journal

/-! ### Runs -/

/-- The journal, and the copies of it that belong to the save points. -/
structure Chronicle where
  now : Journal
  saved : List (Address × Journal)

namespace Chronicle

def empty : Chronicle := ⟨.empty, []⟩

/-- The copies below the latest one that belongs to `target`. -/
def dropThrough (target : Address) : List (Address × Journal) → List (Address × Journal)
  | [] => []
  | (resume, _) :: rest => if resume = target then rest else dropThrough target rest

/-- The journals after an effect, where `j` is the one that goes on. -/
def obey (w : Chronicle) (j : Journal) : Effect → Chronicle
  | .go _ _ | .change _ _ => { w with now := j }
  | .save resume _ => { w with saved := (resume, w.now) :: w.saved }
  | .drop => { w with saved := w.saved.tail }
  | .dropThrough target => { w with saved := dropThrough target w.saved }
  | .backtrack =>
    match w.saved with
    | [] => w
    | (_, now) :: saved => ⟨now, saved⟩
  | .fault _ | .say _ _ | .accept | .abort _ => w

end Chronicle

namespace Search

variable {E : Type} [DecidableEq E]

/-- The journals after the next operation of a configuration. -/
def chronicle (s : Search E) (c : Configuration) (w : Chronicle) : Chronicle :=
  match s.program.operation? c.pc.index with
  | none => w
  | some op => w.obey (w.now.note c.position op) (s.effect c op)

/-- The journals of the machine after at most `n` cycles. -/
def chronicleFor (s : Search E) : Nat → Machine → Chronicle → Chronicle
  | 0, _, w => w
  | n + 1, m, w =>
    if m.status = .inProgress then
      match s.cycle m with
      | .next m' => s.chronicleFor n m' (s.chronicle m.config w)
      | .fault _ _ => w
    else w

end Search

end PatternMachine

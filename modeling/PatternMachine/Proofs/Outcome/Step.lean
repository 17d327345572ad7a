import PatternMachine.Proofs.Outcome.Yields
import PatternMachine.Proofs.Safety.Construct

/-! Single instructions, and what a thread yields that starts with one. -/
namespace PatternMachine

variable {E : Type}

/-! ### Captures -/

namespace Registers

variable {r : Registers} {register : CaptureRegister}

theorem values_getElem? (r : Registers) (i : Nat) :
    r.values[i]? = (r.captures[i]?).map (·.value) := by
  simp [values]

theorem opened_getElem? (r : Registers) (i : Nat) :
    r.opened[i]? = (r.captures[i]?).map (·.opened) := by
  simp [opened]

theorem modifyCapture_getElem? (r : Registers) (register : CaptureRegister) (g : Capture → Capture)
    (i : Nat) : (r.modifyCapture register g).captures[i]? =
      if register.index = i then (r.captures[i]?).map g else r.captures[i]? := by
  rw [modifyCapture, Array.getElem?_modify]

@[simp] theorem openCapture_values (r : Registers) (register : CaptureRegister) (start : Nat) :
    (r.openCapture register start).values = r.values := by
  apply List.ext_getElem?
  intro i
  rw [values_getElem?, values_getElem?, openCapture, modifyCapture_getElem?]
  split
  · rw [Option.map_map]
    rfl
  · rfl

theorem closeCapture_values (known : ∃ c, r.captures[register.index]? = some c) (value : Span) :
    (r.closeCapture register value).values = r.values.set register.index (some value) := by
  obtain ⟨c, known⟩ := known
  apply List.ext_getElem?
  intro i
  rw [values_getElem?, closeCapture, modifyCapture_getElem?, List.getElem?_set, values_getElem?]
  by_cases same : register.index = i
  · subst same
    have bound : register.index < r.values.length := by
      rw [values, List.length_map, Array.length_toList]
      exact (Array.getElem?_eq_some_iff.mp known).1
    rw [if_pos rfl, if_pos rfl, if_pos bound, known]
    rfl
  · rw [if_neg same, if_neg same]

/-- The starts are those before the group was opened. -/
theorem closeCapture_opened {r₀ : Registers} {start : Nat} (value : Span)
    (same : r.opened = (r₀.openCapture register start).opened) :
    (r.closeCapture register value).opened = r₀.opened := by
  apply List.ext_getElem?
  intro i
  have before := congrArg (·[i]?) same
  simp only [opened_getElem?, openCapture, modifyCapture_getElem?] at before
  rw [opened_getElem?, opened_getElem?, closeCapture, modifyCapture_getElem?]
  by_cases here : register.index = i
  · rw [if_pos here] at before ⊢
    cases now : r.captures[i]? <;> cases then_ : r₀.captures[i]? <;>
      simp_all
  · rw [if_neg here] at before ⊢
    exact before

end Registers

/-! ### Threads -/

namespace Thread

/-- Goes on elsewhere. -/
def jump (t : Thread) (a : Address) : Thread := { t with config := { t.config with pc := a } }

/-- Saves what there is, to resume it at an address. -/
def save (t : Thread) (a : Address) : Thread :=
  ⟨t.config.advance, t.config.save a (some t.config.position) :: t.savePoints⟩

variable {s : Search E} {t t' : Thread} {i : Nat} {m : Moment} {f : Footprint} {a : Address}

/-- Enters a group. -/
def enter (t : Thread) (register : CaptureRegister) : Thread :=
  { t with config := { t.config.advance with
    registers := t.config.registers.openCapture register t.config.position } }

theorem At.jump (stands : t.At s i m) (a : Address) : (t.jump a).At s a.index m :=
  { stands with pc := rfl, within := ⟨⟨stands.within.config.inside, stands.within.config.registers⟩,
      stands.within.saved⟩ }

theorem At.save (stands : t.At s i m) (a : Address) : (t.save a).At s (i + 1) m where
  pc := congrArg (· + 1) stands.pc
  position := stands.position
  captures := stands.captures
  within := by
    have within := stands.within
    have copy : ((t.config.save a (some t.config.position)).config t.config.position).Within s :=
      ⟨within.config.inside, within.config.registers⟩
    exact ⟨⟨within.config.inside, within.config.registers⟩,
      t.config.position, Nat.le_refl _, .inr rfl, copy, within.saved⟩

theorem leaves_jump (t : Thread) (a : Address) : Leaves f [] t (t.jump a) :=
  ⟨rfl, rfl, fun _ => .inl rfl, Nat.le_refl _, rfl, List.forall_mem_nil _⟩

theorem leaves_save (t : Thread) (resumes : f.resumes a) :
    Leaves f [t.config.save a (some t.config.position)] t (t.save a) where
  calls := rfl
  saved := rfl
  positions _ := .inl rfl
  forward := Nat.le_refl _
  opened := rfl
  resumes sn member := by
    cases List.mem_singleton.mp member
    exact ⟨resumes, rfl⟩

theorem At.move [DecidableEq E] (stands : t.At s i m) {op : Operation}
    (known : s.program.operation? i = some op) : s.move t = t.obey (s.effect t.config op) :=
  Search.move_of_operation stands.within.config.inside (stands.pc.symm ▸ known)

end Thread

/-! ### Pieces that start with one instruction -/

variable [DecidableEq E] {s : Search E} {f : Footprint} {lo mid hi : Nat} {t : Thread} {m : Moment}
  {w w' : Unfolding} {a : Address} {o : Outcomes}

namespace Yields

/-- What is saved comes after what is done first. -/
theorem choose (stands : t.At s lo m) (known : s.program.operation? lo = some (.save a))
    (resumes : f.resumes a) (first : Yields s f hi (t.save a) w (.next (t.save a)))
    (second : Yields s f hi (t.jump a) w' (.next (t.jump a))) :
    Yields s f hi t (w.append w') (.next t) := by
  have later : Yields s f hi t w' (.next (t.jump a)) := second.rebase (t.leaves_jump a)
  have moved : s.move t = .next (t.save a) := stands.move known
  exact (first.append (t.leaves_save resumes) fun _ => later).reached (.move moved)

theorem branch (stands : t.At s lo m) (known : s.program.operation? lo = some (.branch a))
    (h : Yields s f hi (t.jump a) w (.next (t.jump a))) : Yields s f hi t w (.next t) := by
  have moved : s.move t = .next (t.jump a) := stands.move known
  exact (h.rebase (t.leaves_jump a)).reached (.move moved)

end Yields

namespace Search.Implements

/-- An instruction that goes on to a position or fails. -/
theorem single {op : Operation} (known : s.program.operation? lo = some op)
    (h : ∀ (t : Thread) m, t.At s lo m → (s.effect t.config op = .backtrack ∧ o m = []) ∨
      ∃ position, s.effect t.config op = .go t.config.pc.next position ∧
        o m = [{ m with position }]) : s.Implements f lo (lo + 1) (.all o) := by
  intro t m stands
  have moved := stands.move known
  have lawful := Search.effect_lawful stands.within.config op
  rw [Ways.all]
  rcases h t m stands with ⟨effect, none⟩ | ⟨position, effect, one⟩
  · rw [effect] at moved
    rw [none]
    exact .ends (.move moved)
  · rw [effect] at moved lawful
    rw [one]
    have stands' : Thread.At { t with config := { t.config with pc := t.config.pc.next, position } }
        s (lo + 1) { m with position } :=
      ⟨congrArg (· + 1) stands.pc, rfl, stands.captures, stands.within.move moved⟩
    exact .once (.move moved) stands' ⟨rfl, rfl, fun _ => .inl rfl, lawful.1, rfl, List.forall_mem_nil _⟩

end Search.Implements

/-! ### Iterations -/

namespace Thread.At

/-- An iteration notes where it starts. -/
theorem movePosition {register : PositionRegister} (stands : t.At s lo m)
    (known : s.program.operation? lo = some (.movePosition register))
    (bound : register.index < s.program.registers.positions) (sets : f.sets register) :
    ∃ t', s.move t = .next t' ∧ t'.At s (lo + 1) m ∧ Leaves f [] t t' ∧
      t'.config.registers.positions[register.index]? = some m.position := by
  have size := stands.within.config.registers.positions
  obtain ⟨old, found⟩ := Search.getElem?_of_lt bound size
  have moved := stands.move known
  simp only [Search.effect, found] at moved
  have noted : (t.config.registers.setPosition register t.config.position).positions[
      register.index]? = some t.config.position :=
    Array.getElem?_setIfInBounds_self_of_lt (size ▸ bound)
  refine ⟨_, moved, ?_, ?_, stands.position ▸ noted⟩
  · exact ⟨congrArg (· + 1) stands.pc, stands.position, stands.captures, stands.within.move moved⟩
  · refine ⟨rfl, rfl, fun r => ?_, Nat.le_refl _, rfl, List.forall_mem_nil _⟩
    by_cases same : register = r
    · subst same
      exact .inr ⟨sets, _, noted, Nat.le_refl _, Nat.le_refl _⟩
    · have apart : register.index ≠ r.index := fun eq => same (congrArg Handle.mk eq)
      exact .inl (Array.getElem?_setIfInBounds_ne apart)

/-- An iteration is left if it ends where it started. -/
theorem checkPosition {register : PositionRegister} {stuck : BoolRegister} {exit start : Nat}
    (stands : t.At s mid m)
    (compare : s.program.operation? mid = some (.comparePosition register stuck))
    (leave : s.program.operation? (mid + 1) = some (.condBranch stuck ⟨exit⟩))
    (bound : stuck.index < s.program.registers.bools)
    (started : t.config.registers.positions[register.index]? = some start) :
    ∃ t', s.Reaches (.next t) (.next t') ∧ Leaves f [] t t' ∧
      t'.At s (if start = m.position then exit else mid + 2) m := by
  rw [← stands.pc] at compare leave
  obtain ⟨t₁, moved, moved₁⟩ := stands.within.check compare leave bound started
  refine ⟨_, (Search.Reaches.move moved).trans (.move moved₁), ?_, ?_, stands.position,
    stands.captures, (stands.within.move moved).move moved₁⟩
  · exact ⟨rfl, rfl, fun _ => .inl rfl, Nat.le_refl _, rfl, List.forall_mem_nil _⟩
  · simp only [Thread.checked, stands.position, stands.pc]
    split
    · rfl
    · rfl

/-! ### Groups -/

theorem beginCapture {register : CaptureRegister} (stands : t.At s lo m)
    (known : s.program.operation? lo = some (.beginCapture register))
    (bound : register.index < s.program.registers.captures) :
    s.move t = .next (t.enter register) ∧ (t.enter register).At s (lo + 1) m := by
  obtain ⟨c, found⟩ := Search.getElem?_of_lt bound stands.within.config.registers.captures
  have moved := stands.move known
  simp only [Search.effect, found] at moved
  refine ⟨moved, congrArg (· + 1) stands.pc, stands.position, ?_, stands.within.move moved⟩
  exact (Registers.openCapture_values _ _ _).trans stands.captures

/-- The end of a group closes what the start of the group has opened. -/
theorem endCapture {register : CaptureRegister} {t' : Thread} {m' : Moment} {own : List Snapshot}
    (stands : t.At s lo m) (stands' : t'.At s mid m') (leaves : Leaves f own (t.enter register) t')
    (known : s.program.operation? mid = some (.endCapture register))
    (bound : register.index < s.program.registers.captures) :
    ∃ t'', s.move t' = .next t'' ∧
      t''.At s (mid + 1) (m'.store register.index ⟨m.position, m'.position⟩) ∧
      Leaves f own t t'' := by
  obtain ⟨⟨starts, value⟩, found⟩ :=
    Search.getElem?_of_lt bound stands'.within.config.registers.captures
  obtain ⟨c, before⟩ := Search.getElem?_of_lt bound stands.within.config.registers.captures
  have opened : starts = t.config.position :: c.opened := by
    have same := congrArg (·[register.index]?) leaves.opened
    simp only [Registers.opened_getElem?, found] at same
    simp only [enter, Registers.openCapture, Registers.modifyCapture_getElem?, before, if_true,
      Option.map_some, Option.some.injEq] at same
    exact same
  subst opened
  have moved := stands'.move known
  simp only [Search.effect, found] at moved
  refine ⟨_, moved, ⟨?_, ?_, ?_, ?_⟩, ⟨?_, ?_, ?_, ?_, ?_, ?_⟩⟩
  · exact congrArg (· + 1) stands'.pc
  · exact stands'.position
  · rw [Registers.closeCapture_values ⟨_, found⟩, stands.position, stands'.position]
    rw [stands'.captures]
    rfl
  · exact stands'.within.move moved
  · exact leaves.calls
  · exact leaves.saved
  · exact leaves.positions
  · exact leaves.forward
  · exact Registers.closeCapture_opened _ leaves.opened
  · exact leaves.resumes

end Thread.At

end PatternMachine

import PatternMachine.Compilation.Basic
import PatternMachine.Proofs.Assembler.Reading

/-! What an emission adds to a compilation. It keeps what is there, and every instruction it adds that
sets a position register sets one that was made in between. -/
namespace PatternMachine

variable {E : Type}

theorem Except.mapError_eq_ok {ε ε' α : Type} {x : Except ε α} {f : ε → ε'} {a : α} :
    x.mapError f = .ok a ↔ x = .ok a := by
  cases x with
  | ok b =>
    change (.ok b : Except ε' α) = .ok a ↔ _
    rw [Except.ok.injEq, Except.ok.injEq]
  | error e => exact ⟨nofun, nofun⟩

namespace Compilation

variable {a b c d final : Compilation E} {p : Program E} {least : Nat}

theorem lift_eq_ok {α : Type} {result : Except Fault α} {x : α} :
    lift result = .ok x ↔ result = .ok x := Except.mapError_eq_ok

/-- The registers that a compilation remembers are among those that were made. A capture group has
the register of its index. -/
structure Fits (c : Compilation E) : Prop where
  progress : ∀ register, c.progress = some register → register.index < c.assembler.nextBool.index
  captures : ∀ (i : Nat) register, c.captures[i]? = some register →
    register = ⟨i⟩ ∧ i < c.assembler.nextCapture.index

/-- Everything of `c` is in `d`. -/
structure Extends (c d : Compilation E) : Prop where
  assembler : c.assembler.Extends d.assembler
  captures : d.captures = c.captures
  productions : d.productions = c.productions
  entries : ∀ name token, c.entries.lookup name = some token → d.entries.lookup name = some token
  fits : c.Fits → d.Fits
  /-- Registers of capture groups are made before anything is emitted. -/
  groups : d.assembler.nextCapture = c.assembler.nextCapture

namespace Extends

theorem refl (c : Compilation E) : c.Extends c :=
  ⟨.refl _, rfl, rfl, fun _ _ h => h, fun h => h, rfl⟩

theorem trans (h : a.Extends b) (h' : b.Extends c) : a.Extends c where
  assembler := h.assembler.trans h'.assembler
  captures := h'.captures.trans h.captures
  productions := h'.productions.trans h.productions
  entries name token known := h'.entries name token (h.entries name token known)
  fits fits := h'.fits (h.fits fits)
  groups := h'.groups.trans h.groups

/-- Emission makes no more registers for capture groups. -/
theorem registers_eq (h : c.Extends final) (assembled : final.assembler.assemble = .ok p) :
    p.registers.captures = c.assembler.nextCapture.index := by
  obtain ⟨-, -, -, -, -, -, captures, -⟩ := Assembler.assemble_spec assembled
  rw [captures, h.groups]

end Extends

/-- Every production that became known waits for its code, and was not known before. -/
structure Queues (c d : Compilation E) (new : List (PendingProduction E)) : Prop where
  pending : d.pending = new ++ c.pending
  entries : d.entries = new.map (fun q => (q.name, q.entry)) ++ c.entries
  bodies : ∀ q ∈ new, c.productions.lookup q.name = some q.body
  distinct : (c.entries.map (·.1)).Nodup → (d.entries.map (·.1)).Nodup

/-- What an emission adds, seen from a program that is finished later on. The position registers set
by the new instructions are counted from `least`. -/
structure Adds (final : Compilation E) (p : Program E) (least : Nat) (c d : Compilation E) : Prop
    extends Extends c d where
  queues : ∃ new, c.Queues d new
  sets : d.Extends final → ∀ i register, c.size ≤ i → i < d.size →
    p.operation? i = some (.movePosition register) → least ≤ register.index

namespace Adds

theorem refl (c : Compilation E) : Adds final p least c c :=
  { Extends.refl c with
    queues := ⟨[], rfl, rfl, by simp, fun h => h⟩
    sets := fun _ _ _ _ _ => by omega }

theorem mono (h : Adds final p least c d) {fewer : Nat} (le : fewer ≤ least) :
    Adds final p fewer c d :=
  { h with sets := fun grows i register above below known =>
      Nat.le_trans le (h.sets grows i register above below known) }

theorem trans (h : Adds final p least a b) (h' : Adds final p least b c) :
    Adds final p least a c where
  toExtends := h.toExtends.trans h'.toExtends
  queues := by
    obtain ⟨new, first⟩ := h.queues
    obtain ⟨new', second⟩ := h'.queues
    refine ⟨new' ++ new, ?_, ?_, ?_, fun distinct => second.distinct (first.distinct distinct)⟩
    · rw [second.pending, first.pending, List.append_assoc]
    · rw [second.entries, first.entries, List.map_append, List.append_assoc]
    · intro q member
      rcases List.mem_append.mp member with member | member
      · rw [← h.productions]; exact second.bodies q member
      · exact first.bodies q member
  sets grows i register above below known := by
    by_cases early : i < b.size
    · exact h.sets (h'.toExtends.trans grows) i register above early known
    · exact h'.sets grows i register (by omega) below known

/-- A step that adds no instruction and no production. -/
theorem of_assembler {assembler : Assembler E} (grows : c.assembler.Extends assembler)
    (size : assembler.size = c.size) (groups : assembler.nextCapture = c.assembler.nextCapture)
    {progress : Option BoolRegister} (fits : c.Fits → ∀ register, progress = some register →
      register.index < assembler.nextBool.index) :
    Adds final p least c { c with assembler, progress } where
  assembler := grows
  captures := rfl
  productions := rfl
  entries _ _ known := known
  fits old := ⟨fits old, groups ▸ old.captures⟩
  groups := groups
  queues := ⟨[], rfl, rfl, by simp, fun h => h⟩
  sets _ i register above below := by
    have : assembler.size ≤ i := by omega
    exact absurd below (Nat.not_lt.mpr this)

end Adds

theorem Fits.mono (h : c.Fits) {assembler : Assembler E} (grows : c.assembler.Extends assembler)
    (register : BoolRegister) (known : c.progress = some register) :
    register.index < assembler.nextBool.index :=
  Nat.lt_of_lt_of_le (h.progress register known) grows.bools

/-! ### Steps -/

theorem makeToken_adds {token : Token} (h : c.makeToken = (token, d)) :
    Adds final p least c d ∧ d.size = c.size := by
  cases h
  have grows := c.assembler.makeToken_extends
  exact ⟨.of_assembler grows rfl rfl fun fits => fits.mono grows, rfl⟩

theorem label_adds {token : Token} (h : c.label token = .ok d) :
    Adds final p least c d ∧ d.size = c.size ∧ d.assembler.address? token = some ⟨c.size⟩ := by
  obtain ⟨assembler, lifted, h⟩ := bind_eq_ok.mp h
  cases h
  obtain ⟨grows, bound, lines, groups⟩ := Assembler.bind_spec (lift_eq_ok.mp lifted)
  have size : assembler.size = c.size := congrArg Array.size lines
  exact ⟨.of_assembler grows size groups fun fits => fits.mono grows, size, bound⟩

theorem makePosition_adds {register : PositionRegister}
    (h : c.makePosition = .ok (register, d)) :
    Adds final p least c d ∧ d.size = c.size ∧ register = c.assembler.nextPosition ∧
      d.assembler.nextPosition.index = register.index + 1 := by
  obtain ⟨⟨made, assembler⟩, lifted, h⟩ := bind_eq_ok.mp h
  cases h
  obtain ⟨grows, eq, next, lines, groups⟩ := Assembler.makePositionRegister_spec (lift_eq_ok.mp lifted)
  have size : assembler.size = c.size := congrArg Array.size lines
  exact ⟨.of_assembler grows size groups fun fits => fits.mono grows, size, eq, next⟩

theorem progressRegister_adds {register : BoolRegister}
    (h : c.progressRegister = .ok (register, d)) :
    Adds final p least c d ∧ d.size = c.size ∧
      (c.Fits → register.index < d.assembler.nextBool.index) := by
  unfold progressRegister at h
  split at h
  next known => cases h; exact ⟨.refl _, rfl, fun fits => fits.progress _ known⟩
  next =>
    obtain ⟨⟨made, assembler⟩, lifted, h⟩ := bind_eq_ok.mp h
    cases h
    obtain ⟨grows, bound, lines, groups⟩ := Assembler.makeBoolRegister_spec (lift_eq_ok.mp lifted)
    have size : assembler.size = c.size := congrArg Array.size lines
    refine ⟨.of_assembler grows size groups fun _ register' known => ?_, size, fun _ => bound⟩
    cases known
    exact bound

theorem checkSize_eq (h : c.checkSize = .ok d) : d = c := by
  unfold checkSize at h
  split at h <;> cases h
  rfl

section

variable [DecidableEq E]

theorem emit_eq {st : Statement E} (h : c.emit st = .ok d) :
    ∃ assembler, c.assembler.emit st = .ok assembler ∧ d = { c with assembler } := by
  obtain ⟨assembler, lifted, h⟩ := bind_eq_ok.mp h
  cases h
  exact ⟨assembler, lift_eq_ok.mp lifted, rfl⟩

theorem emit_stands {st : Statement E} (assembled : final.assembler.assemble = .ok p)
    (h : c.emit st = .ok d) (grows : d.Extends final) :
    st.StandsAt p final.assembler.address? c.size := by
  obtain ⟨assembler, emitted, rfl⟩ := emit_eq h
  exact Assembler.emit_stands emitted assembled grows.assembler

theorem emit_adds {st : Statement E} (assembled : final.assembler.assemble = .ok p)
    (h : c.emit st = .ok d)
    (sets : ∀ register, st = .movePosition register → least ≤ register.index) :
    Adds final p least c d ∧ d.size = c.size + 1 := by
  have stands := fun grows => emit_stands assembled h grows
  obtain ⟨assembler, emitted, rfl⟩ := emit_eq h
  obtain ⟨grows, size, groups⟩ := Assembler.emit_extends emitted
  refine ⟨⟨⟨grows, rfl, rfl, fun _ _ known => known,
    fun fits => ⟨fits.mono grows, groups ▸ fits.captures⟩, groups⟩,
    ⟨[], rfl, rfl, by simp, fun h => h⟩, ?_⟩, size⟩
  · intro extends_ i register above below known
    have here : i = c.size := by
      have : i < assembler.size := below
      have : assembler.size = c.size + 1 := size
      omega
    subst here
    obtain ⟨op, place, means⟩ := stands extends_
    cases known.symm.trans place
    cases st <;> simp [Statement.Means] at means
    subst means
    exact sets _ rfl

end

end Compilation

end PatternMachine

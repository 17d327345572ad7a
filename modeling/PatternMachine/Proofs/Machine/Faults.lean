import PatternMachine.Proofs.Instruction.Decoding
import PatternMachine.Proofs.Machine.Cycle

/-! The faults that a cycle can come to: those of the effect of an operation, those of words that cannot be
decoded, and those of save points that are not there. -/
namespace PatternMachine

/-- What can be wrong with an operation in a configuration. -/
inductive Fault.OfEffect {E : Type} (s : Search E) (c : Configuration) : Fault → Prop
  | invalid : OfEffect s c (.invalidInstruction c.pc)
  | missing : OfEffect s c .indexOutOfBounds
  | closed (register : CaptureRegister) : OfEffect s c (.captureNotOpen register)
  | outside (position : Nat) :
    OfEffect s c (.consumedOutOfRange position ⟨c.position, s.range.stop⟩)
  | beyond (past : s.range.stop < c.position) : OfEffect s c .subtractionOverflow

namespace Search

variable {E : Type} {s : Search E} {c : Configuration} {f : Fault}

theorem string?_error {register : Option StringRegister} (h : s.string? register = .error f) :
    f = .indexOutOfBounds := by
  unfold string? at h
  split at h
  · cases h
  · split at h <;> cases h
    rfl

theorem string?_fault {register : Option StringRegister} (h : s.string? register = .error f) :
    f.OfEffect s c := string?_error h ▸ .missing

theorem remaining_fault (h : s.remaining c.position = .error f) : f.OfEffect s c := by
  unfold remaining at h
  split at h <;> cases h
  exact .beyond (by omega)

theorem slice_fault {span : Span} (h : s.slice span = .error f) : f.OfEffect s c := by
  unfold slice at h
  split at h <;> cases h
  exact .missing

theorem repeats_fault [DecidableEq E] {captured : Span}
    (h : s.repeats c.position captured = .error f) : f.OfEffect s c := by
  rcases bind_eq_error.mp h with h | ⟨left, -, h⟩
  · exact remaining_fault h
  split at h
  · rcases bind_eq_error.mp h with h | ⟨earlier, -, h⟩
    · exact slice_fault h
    · rcases bind_eq_error.mp h with h | ⟨current, -, h⟩
      · exact slice_fault h
      · cases h
  · cases h

theorem acceptance_ne_fault : s.acceptance c ≠ .fault f := by
  unfold acceptance
  split <;> simp

theorem assignment_fault {register : BoolRegister} {value : Bool}
    (h : assignment c register value = .fault f) : f.OfEffect s c := by
  unfold assignment at h
  split at h <;> cases h
  exact .missing

theorem effect_fault [DecidableEq E] {op : Operation} (h : s.effect c op = .fault f) :
    f.OfEffect s c := by
  cases op <;> simp only [effect, consumption] at h
  case invalid => cases h; exact .invalid
  case nop comment =>
    split at h
    · split at h
      next f' failed => cases h; exact string?_fault failed
      all_goals cases h
    · cases h
  case abort reason =>
    split at h
    next f' failed => cases h; exact string?_fault failed
    · cases h
  case ret =>
    split at h
    · exact absurd h acceptance_ne_fault
    · cases h
  case accept => exact absurd h acceptance_ne_fault
  case consume distance =>
    split at h
    next f' failed => cases h; exact remaining_fault failed
    · split at h <;> cases h
  case consumeBy function =>
    split at h
    · cases h; exact .missing
    · split at h
      · cases h
      · split at h <;> cases h
        exact .outside _
  case assertion element condition =>
    split at h
    · cases h; exact .missing
    · exact assignment_fault h
  case comparePosition register condition =>
    split at h
    · cases h; exact .missing
    · exact assignment_fault h
  case endCapture register =>
    split at h <;> cases h
    · exact .missing
    · exact .closed register
  case backreference register =>
    split at h
    · cases h; exact .missing
    · cases h
    · split at h
      next f' failed => cases h; exact repeats_fault failed
      all_goals cases h
  all_goals
    repeat' split at h
    all_goals cases h
    all_goals exact .missing

theorem announce_fault {m : Machine} {i : Instruction} (h : s.announce m i = .error f) : f.OfWord := by
  unfold announce at h
  split at h
  · rcases bind_eq_error.mp h with failed | ⟨_, _, failed⟩
    · rcases bind_eq_error.mp failed with failed | ⟨_, _, failed⟩
      · exact Instruction.text_error failed
      · cases failed
    · cases failed
  · cases h

theorem fetch_fault {m m' : Machine} (h : s.fetch m = .error (f, m')) :
    f.OfWord ∨ f = .pastEnd m.pc := by
  unfold fetch at h
  split at h
  · cases h; exact .inr rfl
  split at h
  next announced => cases h; exact .inl (announce_fault announced)
  · split at h
    next failed => cases h; exact .inl (Instruction.decode_error failed)
    · cases h

/-- What is wrong when an effect can be obeyed in some machines only. -/
theorem obey_fault {m m' : Machine} {e : Effect} (h : s.obey m e = .fault f m') :
    e = .fault f ∨ f = .noSavePoint ∨ (∃ target, f = .noSavePointAt target) ∨
      f = .callDepthChanged := by
  cases e with
  | fault f' => cases h; exact .inl rfl
  | drop =>
    simp only [obey] at h
    split at h <;> cases h
    exact .inr (.inl rfl)
  | dropThrough target =>
    simp only [obey] at h
    split at h <;> cases h
    exact .inr (.inr (.inl ⟨target, rfl⟩))
  | backtrack =>
    simp only [obey, Machine.backtrack] at h
    split at h
    · cases h
    · split at h <;> cases h
      exact .inr (.inr (.inr rfl))
  | _ => cases h

end Search

end PatternMachine

import PatternMachine.Instruction.Forms
import PatternMachine.Operation
import PatternMachine.Proofs.Except

/-! Reading an instruction gives back what it was made of. The fields of an operand do not touch each
other nor the opcode, also when the target of a jump is filled in later. -/
namespace PatternMachine

/-! ### The fields of an operand -/

namespace Operand

variable {kind : PayloadKind} {o o' : Operand}

theorem eq_of_toNat_eq (h : o.word.toNat = o'.word.toNat) : o = o' := by
  cases o; cases o'
  exact congrArg Operand.mk (BitVec.eq_of_toNat_eq h)

@[simp] theorem payloadField_empty : empty.payloadField = 0 := by decide

@[simp] theorem conditionField_empty : empty.conditionField = 0 := by decide

theorem setPayload_fields {payload : Payload kind} (h : o.setPayload payload = .ok o') :
    o.payloadField = 0 ∧ o'.payloadField = payload.index + 1 ∧
      o'.conditionField = o.conditionField := by
  unfold setPayload at h
  split at h
  · cases h
  next free =>
    split at h
    next fits =>
      have word : o'.word.toNat = o.word.toNat + (payload.index + 1) := by
        rw [← Except.ok.inj h]; exact BitVec.toNat_ofNatLT _ _
      have empty : o.payloadField = 0 := by simpa [hasPayload] using free
      have bound : payload.index + 1 < 2 ^ 40 := by
        have : maxPayload = 2 ^ 40 - 2 := rfl
        omega
      simp only [payloadField, conditionField, conditionUnit, payloadBits, Nat.one_shiftLeft]
        at empty ⊢
      omega
    · cases h

theorem setCondition_fields {condition : BoolRegister} (h : o.setCondition condition = .ok o') :
    o.conditionField = 0 ∧ o'.conditionField = condition.index + 1 ∧
      o'.payloadField = o.payloadField := by
  unfold setCondition at h
  split at h
  · cases h
  next free =>
    split at h
    next fits =>
      have word : o'.word.toNat = o.word.toNat + (condition.index + 1) * conditionUnit := by
        rw [← Except.ok.inj h]; exact BitVec.toNat_ofNatLT _ _
      have empty : o.conditionField = 0 := by simpa [hasCondition] using free
      simp only [payloadField, conditionField, conditionUnit, payloadBits, Nat.one_shiftLeft]
        at empty word ⊢
      omega
    · cases h

end Operand

/-! ### Instructions and what they carry -/

namespace Instruction

variable {kind : PayloadKind} {i : Instruction} {opcode : Opcode}

theorem opcodeUnit_pos : 0 < opcodeUnit := by decide

theorem word_lt_opcodeUnit (o : Operand) : o.word.toNat < opcodeUnit := o.word.isLt

theorem toNat_pack (byte : Nat) (o : Operand) (h : byte < 256) :
    (pack byte o h).word.toNat = opcodeUnit * byte + o.word.toNat :=
  (BitVec.toNat_ofNatLT _ _).trans (by rw [Nat.mul_comm])

theorem toNat_operand (i : Instruction) : i.operand.word.toNat = i.word.toNat % opcodeUnit :=
  BitVec.toNat_ofNatLT _ _

@[simp] theorem opcodeByte_pack (byte : Nat) (o : Operand) (h : byte < 256) :
    (pack byte o h).opcodeByte = byte := by
  rw [opcodeByte, toNat_pack, Nat.mul_add_div opcodeUnit_pos,
    Nat.div_eq_of_lt (word_lt_opcodeUnit o), Nat.add_zero]

@[simp] theorem operand_pack (byte : Nat) (o : Operand) (h : byte < 256) :
    (pack byte o h).operand = o := by
  apply Operand.eq_of_toNat_eq
  rw [toNat_operand, toNat_pack, Nat.mul_add_mod, Nat.mod_eq_of_lt (word_lt_opcodeUnit o)]

/-- An opcode together with the numbers in the fields of the operand. -/
structure Carries (i : Instruction) (opcode : Opcode) (payload condition : Option Nat) :
    Prop where
  opcode : i.opcode = .ok opcode
  payload : i.operand.payloadField = payload.elim 0 (· + 1)
  condition : i.operand.conditionField = condition.elim 0 (· + 1)

theorem encode_carries {o : Operand} {payload condition : Option Nat}
    (h : encode opcode o = .ok i) (hp : o.payloadField = payload.elim 0 (· + 1))
    (hc : o.conditionField = condition.elim 0 (· + 1)) : i.Carries opcode payload condition := by
  unfold encode at h
  by_cases invalid : opcode = .invalid
  · rw [if_pos invalid] at h; contradiction
  · rw [if_neg invalid] at h
    have packed := Except.ok.inj h
    have byte : i.opcodeByte = opcode.number := by rw [← packed, opcodeByte_pack]
    have operand : i.operand = o := by rw [← packed, operand_pack]
    refine ⟨?_, ?_, ?_⟩
    · rw [Instruction.opcode, byte, Opcode.ofNumber?_number]
    · rw [operand, hp]
    · rw [operand, hc]

theorem make_carries {payload : Option (Payload kind)} {condition : Option BoolRegister}
    (h : make opcode payload condition = .ok i) :
    i.Carries opcode (payload.map (·.index)) (condition.map (·.index)) := by
  unfold make at h
  cases payload with
  | none =>
    cases condition with
    | none => exact encode_carries h (by simp) (by simp)
    | some c =>
      obtain ⟨o, set, h⟩ := bind_eq_ok.mp (show Operand.empty.setCondition c >>= _ = _ from h)
      obtain ⟨-, hc, hp⟩ := Operand.setCondition_fields set
      exact encode_carries h (by simpa using hp) (by simpa using hc)
  | some p =>
    obtain ⟨o, set, h⟩ := bind_eq_ok.mp h
    obtain ⟨-, hp, hc⟩ := Operand.setPayload_fields set
    cases condition with
    | none => exact encode_carries h (by simpa using hp) (by simpa using hc)
    | some c =>
      obtain ⟨o', set', h⟩ := bind_eq_ok.mp h
      obtain ⟨-, hc', hp'⟩ := Operand.setCondition_fields set'
      exact encode_carries h (by simpa [hp'] using hp) (by simpa using hc')

theorem bare_carries (h : bare opcode = .ok i) : i.Carries opcode none none :=
  encode_carries h (by simp) (by simp)

namespace Carries

variable {payload condition : Option Nat}

/-- Filling in a target keeps the opcode and the condition. -/
theorem setOperand {o : Operand} {address : Address} (h : i.Carries opcode payload condition)
    (set : i.operand.setPayload address = .ok o) :
    (i.setOperand o).Carries opcode (some address.index) condition := by
  obtain ⟨-, hp, hc⟩ := Operand.setPayload_fields set
  have byte : (i.setOperand o).opcodeByte = i.opcodeByte := opcodeByte_pack _ _ _
  have operand : (i.setOperand o).operand = o := operand_pack _ _ _
  refine ⟨?_, ?_, ?_⟩
  · rw [Instruction.opcode, byte]; exact h.opcode
  · rw [operand, hp]; rfl
  · rw [operand, hc, h.condition]

theorem payload_eq {n : Nat} (h : i.Carries opcode (some n) condition)
    (takes : opcode.payloadKind? = some kind) : i.payload kind = .ok ⟨n⟩ := by
  simp [Instruction.payload, h.opcode, takes, Operand.payload, Operand.hasPayload, h.payload]

theorem condition_eq {n : Nat} (h : i.Carries opcode payload (some n))
    (takes : opcode.takesCondition = true) : i.condition = .ok ⟨n⟩ := by
  simp [Instruction.condition, h.opcode, takes, Operand.condition, Operand.hasCondition,
    h.condition]

theorem string?_eq (h : i.Carries opcode payload condition)
    (takes : opcode.payloadKind? = some .string) :
    i.string? = .ok (payload.map Handle.mk) := by
  cases payload with
  | none =>
    simp [Instruction.string?, payloadOf?, h.opcode, payload?, Operand.hasPayload, h.payload]
  | some n =>
    simp [Instruction.string?, payloadOf?, h.opcode, takes, payload?, Operand.hasPayload,
      h.payload, h.payload_eq takes, Functor.map, Except.map]

end Carries

end Instruction

/-- The operation of an opcode with given numbers in its fields. -/
def Opcode.operation? : Opcode → Option Nat → Option Nat → Option Operation
  | .invalid, _, _ => some .invalid
  | .nop, comment, _ => some (.nop (comment.map Handle.mk))
  | .branch, some target, _ => some (.branch ⟨target⟩)
  | .condBranch, some target, some condition => some (.condBranch ⟨condition⟩ ⟨target⟩)
  | .save, some target, _ => some (.save ⟨target⟩)
  | .saveAddress, some target, _ => some (.saveAddress ⟨target⟩)
  | .clear, _, _ => some .clear
  | .clearThrough, some target, _ => some (.clearThrough ⟨target⟩)
  | .restore, _, _ => some .restore
  | .call, some target, _ => some (.call ⟨target⟩)
  | .ret, _, _ => some .ret
  | .accept, _, _ => some .accept
  | .fail, _, _ => some .fail
  | .abort, reason, _ => some (.abort (reason.map Handle.mk))
  | .consume, some distance, _ => some (.consume ⟨distance⟩)
  | .consumeBy, some function, _ => some (.consumeBy ⟨function⟩)
  | .matchElement, some element, _ => some (.matchElement ⟨element⟩)
  | .matchPredicate, some predicate, _ => some (.matchPredicate ⟨predicate⟩)
  | .assertion, some element, some condition => some (.assertion ⟨element⟩ ⟨condition⟩)
  | .movePosition, some register, _ => some (.movePosition ⟨register⟩)
  | .comparePosition, some register, some condition =>
    some (.comparePosition ⟨register⟩ ⟨condition⟩)
  | .beginCapture, some register, _ => some (.beginCapture ⟨register⟩)
  | .endCapture, some register, _ => some (.endCapture ⟨register⟩)
  | .backreference, some register, _ => some (.backreference ⟨register⟩)
  | .print, some message, _ => some (.print ⟨message⟩)
  | _, _, _ => none

theorem Instruction.Carries.decode {i : Instruction} {opcode : Opcode}
    {payload condition : Option Nat} {op : Operation} (h : i.Carries opcode payload condition)
    (means : opcode.operation? payload condition = some op) : i.decode = .ok op := by
  unfold Instruction.decode
  rw [h.opcode]
  cases opcode
  case nop => cases means; simp [h.string?_eq rfl]
  case abort => cases means; simp [h.string?_eq rfl]
  case condBranch =>
    rcases payload with _ | target <;> rcases condition with _ | c <;> cases means
    simp [h.condition_eq rfl, h.payload_eq rfl]
  case assertion =>
    rcases payload with _ | element <;> rcases condition with _ | c <;> cases means
    simp [h.condition_eq rfl, h.payload_eq rfl]
  case comparePosition =>
    rcases payload with _ | register <;> rcases condition with _ | c <;> cases means
    simp [h.condition_eq rfl, h.payload_eq rfl]
  case invalid | clear | restore | ret | accept | fail => cases means; rfl
  all_goals
    rcases payload with _ | n <;> cases means
    simp [h.payload_eq rfl]

/-! ### What reading can fail with -/

/-- The faults of words that lack what their opcode needs. -/
def Fault.OfWord : Fault → Prop
  | .opcodeUnknown _ | .payloadMissing | .payloadKindRefused _ _ | .conditionMissing
  | .conditionRefused _ => True
  | _ => False

namespace Instruction

variable {i : Instruction} {f : Fault} {kind : PayloadKind}

theorem opcode_error (h : i.opcode = .error f) : f.OfWord := by
  unfold opcode at h
  split at h <;> cases h
  trivial

theorem payload_error (h : i.payload kind = .error f) : f.OfWord := by
  rcases bind_eq_error.mp h with h | ⟨opcode, -, h⟩
  · exact opcode_error h
  · split at h
    · unfold Operand.payload at h
      split at h <;> cases h
      trivial
    · cases h; trivial

theorem condition_error (h : i.condition = .error f) : f.OfWord := by
  rcases bind_eq_error.mp h with h | ⟨opcode, -, h⟩
  · exact opcode_error h
  · split at h
    · unfold Operand.condition at h
      split at h <;> cases h
      trivial
    · cases h; trivial

theorem string?_error (h : i.string? = .error f) : f.OfWord := by
  rcases bind_eq_error.mp h with h | ⟨opcode, -, h⟩
  · exact opcode_error h
  · split at h
    · unfold payload? at h
      split at h
      · exact payload_error (map_eq_error.mp h)
      · cases h
    · cases h

theorem decode_error (h : i.decode = .error f) : f.OfWord := by
  rcases bind_eq_error.mp h with h | ⟨opcode, -, h⟩
  · exact opcode_error h
  cases opcode
  case invalid | clear | restore | ret | accept | fail => cases h
  case nop | abort =>
    rcases bind_eq_error.mp h with h | ⟨_, _, h⟩
    · exact string?_error h
    · cases h
  case condBranch =>
    rcases bind_eq_error.mp h with h | ⟨_, _, h⟩
    · exact condition_error h
    · rcases bind_eq_error.mp h with h | ⟨_, _, h⟩
      · exact payload_error h
      · cases h
  case assertion | comparePosition =>
    rcases bind_eq_error.mp h with h | ⟨_, _, h⟩
    · exact payload_error h
    · rcases bind_eq_error.mp h with h | ⟨_, _, h⟩
      · exact condition_error h
      · cases h
  all_goals
    rcases bind_eq_error.mp h with h | ⟨_, _, h⟩
    · exact payload_error h
    · cases h

theorem payload_ok {opcode : Opcode} (h : i.opcode = .ok opcode)
    (takes : opcode.payloadKind? = some kind) (present : i.operand.hasPayload = true) :
    i.payload kind = .ok ⟨i.operand.payloadField - 1⟩ := by
  simp [payload, h, takes, Operand.payload, present]

/-- Every word with a known opcode has a text. -/
theorem text_ok {opcode : Opcode} (h : i.opcode = .ok opcode) : ∃ text, i.text = .ok text := by
  have condition_ok (has : i.operand.hasCondition = true) :
      i.operand.condition = .ok ⟨i.operand.conditionField - 1⟩ := if_pos has
  simp only [text, h, ok_bind]
  by_cases conditional : (opcode.takesCondition && i.operand.hasCondition) = true
  case' pos =>
    obtain ⟨-, has⟩ := Bool.and_eq_true_iff.mp conditional
    simp only [if_pos conditional, condition_ok has, ok_bind, pure_eq_ok]
  case' neg => simp only [if_neg conditional, ok_bind, pure_eq_ok]
  -- With a condition in front or without, the payload is read alike.
  all_goals
    cases takes : opcode.payloadKind? with
    | none => exact ⟨_, rfl⟩
    | some kind =>
      by_cases present : i.operand.hasPayload = true
      · simp [present, payload_ok h takes present]
      · simp [present]

theorem text_error (h : i.text = .error f) : f.OfWord := by
  cases known : i.opcode with
  | error f' =>
    have : i.text = .error f' := by rw [text, known, error_bind]
    rw [this] at h
    exact Except.error.inj h ▸ opcode_error known
  | ok opcode =>
    obtain ⟨text, ok⟩ := text_ok known
    rw [ok] at h
    cases h

/-- What can be executed can be shown. -/
theorem text_of_decode {op : Operation} (h : i.decode = .ok op) : ∃ text, i.text = .ok text := by
  obtain ⟨opcode, known, -⟩ := bind_eq_ok.mp h
  exact text_ok known

end Instruction

end PatternMachine

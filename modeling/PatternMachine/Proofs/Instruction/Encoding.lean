import PatternMachine.Proofs.Instruction.Decoding

/-! The 64-bit format of instructions. A field that is taken holds its value plus one, so the largest
values are those that could carry over into the field above. They do not: a word is its opcode byte,
its condition field and its payload field side by side, and the three determine it. -/
namespace PatternMachine

/-! ### Operands are their two fields -/

namespace Operand

variable {kind : PayloadKind} {o o' : Operand}

theorem word_eq_fields (o : Operand) :
    o.word = BitVec.ofNat 16 o.conditionField ++ BitVec.ofNat 40 o.payloadField := by
  have below := o.word.isLt
  apply BitVec.eq_of_toNat_eq
  rw [BitVec.toNat_append, BitVec.toNat_ofNat, BitVec.toNat_ofNat, ← Nat.shiftLeft_add_eq_or_of_lt
    (Nat.mod_lt _ (Nat.two_pow_pos _)), Nat.shiftLeft_eq]
  simp only [conditionField, payloadField, conditionUnit, payloadBits, Nat.one_shiftLeft]
  omega

theorem eq_of_fields (payload : o.payloadField = o'.payloadField)
    (condition : o.conditionField = o'.conditionField) : o = o' := by
  have same : o.word = o'.word := by
    rw [word_eq_fields o, word_eq_fields o', payload, condition]
  cases o; cases o'
  exact congrArg Operand.mk same

/-- The numbers in the fields of an operand, none where a field is empty. -/
structure Stores (o : Operand) (payload condition : Option Nat) : Prop where
  payload : o.payloadField = payload.elim 0 (· + 1)
  condition : o.conditionField = condition.elim 0 (· + 1)

theorem field_injective {n m : Option Nat} (h : n.elim 0 (· + 1) = m.elim 0 (· + 1)) : n = m := by
  cases n <;> cases m <;> simp_all

namespace Stores

variable {p p' c c' : Option Nat}

theorem empty : Operand.empty.Stores none none := ⟨payloadField_empty, conditionField_empty⟩

theorem unique (h : o.Stores p c) (h' : o'.Stores p c) : o = o' :=
  eq_of_fields (h.payload.trans h'.payload.symm) (h.condition.trans h'.condition.symm)

theorem inj (h : o.Stores p c) (h' : o.Stores p' c') : p = p' ∧ c = c' :=
  ⟨field_injective (h.payload.symm.trans h'.payload),
    field_injective (h.condition.symm.trans h'.condition)⟩

theorem hasPayload (h : o.Stores p c) : o.hasPayload = p.isSome := by
  rw [Operand.hasPayload, h.payload]
  cases p <;> simp

theorem hasCondition (h : o.Stores p c) : o.hasCondition = c.isSome := by
  rw [Operand.hasCondition, h.condition]
  cases c <;> simp

theorem read_payload {payload : Option (Payload kind)}
    (h : o.Stores (payload.map (·.index)) c) :
    o.payload kind = payload.elim (.error .payloadMissing) .ok := by
  rw [Operand.payload, h.hasPayload, h.payload]
  cases payload <;> simp

theorem read_condition {condition : Option BoolRegister}
    (h : o.Stores p (condition.map (·.index))) :
    o.condition = condition.elim (.error .conditionMissing) .ok := by
  rw [Operand.condition, h.hasCondition, h.condition]
  cases condition <;> simp

end Stores

/-! ### Filling the fields -/

/-- Fills the payload field unless the payload is absent. -/
def withPayload (o : Operand) (payload : Option (Payload kind)) : Except Fault Operand :=
  payload.elim (.ok o) o.setPayload

/-- Fills the condition field unless the condition is absent. -/
def withCondition (o : Operand) (condition : Option BoolRegister) : Except Fault Operand :=
  condition.elim (.ok o) o.setCondition

/-- A payload is refused where there is one already, and where it is above the maximum. -/
theorem setPayload_eq_error {payload : Payload kind} {f : Fault} :
    o.setPayload payload = .error f ↔
      o.hasPayload = true ∧ f = .payloadPresent ∨
      o.hasPayload = false ∧ maxPayload < payload.index ∧ f = .payloadTooLarge kind payload := by
  unfold setPayload
  split
  next present => simp [present, eq_comm]
  next free =>
    have free : o.hasPayload = false := by simpa using free
    split
    next fits => simp [free, Nat.not_lt.mpr fits]
    next above => simp [free, Nat.not_le.mp above, eq_comm]

/-- A condition is refused where there is one already, and where it is above the maximum. -/
theorem setCondition_eq_error {condition : BoolRegister} {f : Fault} :
    o.setCondition condition = .error f ↔
      o.hasCondition = true ∧ f = .conditionPresent ∨
      o.hasCondition = false ∧ maxCondition < condition.index ∧
        f = .conditionTooLarge condition := by
  unfold setCondition
  split
  next present => simp [present, eq_comm]
  next free =>
    have free : o.hasCondition = false := by simpa using free
    split
    next fits => simp [free, Nat.not_lt.mpr fits]
    next above => simp [free, Nat.not_le.mp above, eq_comm]

variable {p c : Option Nat} {payload : Option (Payload kind)} {condition : Option BoolRegister}

theorem Stores.withPayload (h : o.Stores none c) (fits : ∀ r ∈ payload, r.index ≤ maxPayload) :
    ∃ o', o.withPayload payload = .ok o' ∧ o'.Stores (payload.map (·.index)) c := by
  cases payload with
  | none => exact ⟨o, rfl, h⟩
  | some r =>
    cases set : o.setPayload r with
    | error f =>
      have free := h.hasPayload
      rcases setPayload_eq_error.mp set with ⟨present, -⟩ | ⟨-, above, -⟩
      · rw [free] at present; cases present
      · exact absurd (fits r rfl) (Nat.not_le.mpr above)
    | ok o' =>
      obtain ⟨-, stored, kept⟩ := setPayload_fields set
      exact ⟨o', set, stored, kept.trans h.condition⟩

theorem Stores.withCondition (h : o.Stores p none)
    (fits : ∀ r ∈ condition, r.index ≤ maxCondition) :
    ∃ o', o.withCondition condition = .ok o' ∧ o'.Stores p (condition.map (·.index)) := by
  cases condition with
  | none => exact ⟨o, rfl, h⟩
  | some r =>
    cases set : o.setCondition r with
    | error f =>
      have free := h.hasCondition
      rcases setCondition_eq_error.mp set with ⟨present, -⟩ | ⟨-, above, -⟩
      · rw [free] at present; cases present
      · exact absurd (fits r rfl) (Nat.not_le.mpr above)
    | ok o' =>
      obtain ⟨-, stored, kept⟩ := setCondition_fields set
      exact ⟨o', set, kept.trans h.payload, stored⟩

/-- Filling a field leaves the other one alone. -/
theorem setPayload_keeps {payload : Payload kind} (set : o.setPayload payload = .ok o') :
    o'.payload kind = .ok payload ∧ o'.hasCondition = o.hasCondition ∧
      o'.condition = o.condition := by
  obtain ⟨-, stored, kept⟩ := setPayload_fields set
  simp [Operand.payload, hasPayload, hasCondition, Operand.condition, stored, kept]

theorem setCondition_keeps {condition : BoolRegister} (set : o.setCondition condition = .ok o') :
    o'.condition = .ok condition ∧ o'.hasPayload = o.hasPayload ∧
      ∀ kind, o'.payload kind = o.payload kind := by
  obtain ⟨-, stored, kept⟩ := setCondition_fields set
  simp [Operand.condition, hasCondition, hasPayload, Operand.payload, stored, kept]

/-- The two fields may be filled in either order. -/
theorem filled_either_order (fits : ∀ r ∈ payload, r.index ≤ maxPayload)
    (fits' : ∀ r ∈ condition, r.index ≤ maxCondition) :
    ∃ o, (empty.withPayload payload >>= (·.withCondition condition)) = .ok o ∧
      (empty.withCondition condition >>= (·.withPayload payload)) = .ok o ∧
      o.Stores (payload.map (·.index)) (condition.map (·.index)) := by
  obtain ⟨first, set, stores⟩ := Stores.empty.withPayload fits
  obtain ⟨o, set', stores⟩ := stores.withCondition fits'
  obtain ⟨other, conditioned, stores'⟩ := Stores.empty.withCondition fits'
  obtain ⟨o', filled, stores'⟩ := stores'.withPayload fits
  have same : o' = o := stores'.unique stores
  exact ⟨o, by rw [set, ok_bind, set'], by rw [conditioned, ok_bind, filled, same], stores⟩

end Operand

/-! ### Instructions are an opcode byte above an operand -/

theorem Opcode.number_of_ofNumber? {opcode : Opcode} {n : Nat} (h : ofNumber? n = some opcode) :
    opcode.number = n := by
  have listed : ∀ k : Fin all.size, (all[k]).number = k := by decide
  obtain ⟨lt, rfl⟩ := Array.getElem?_eq_some_iff.mp h
  exact listed ⟨n, lt⟩

namespace Instruction

variable {kind : PayloadKind} {i : Instruction} {opcode : Opcode}

theorem word_pack (byte : Nat) (o : Operand) (h : byte < 256) :
    (pack byte o h).word = BitVec.ofNat 8 byte ++ o.word := by
  have below := o.word.isLt
  apply BitVec.eq_of_toNat_eq
  rw [toNat_pack, BitVec.toNat_append, BitVec.toNat_ofNat, ← Nat.shiftLeft_add_eq_or_of_lt below,
    Nat.shiftLeft_eq]
  simp only [opcodeUnit, Nat.one_shiftLeft]
  omega

theorem pack_opcodeByte_operand (i : Instruction) :
    pack i.opcodeByte i.operand i.opcodeByte_lt = i := by
  have same : (pack i.opcodeByte i.operand i.opcodeByte_lt).word = i.word := by
    apply BitVec.eq_of_toNat_eq
    rw [toNat_pack, toNat_operand, opcodeByte, Nat.div_add_mod]
  cases i
  exact congrArg Instruction.mk same

theorem opcodeByte_eq_extract (i : Instruction) :
    BitVec.ofNat 8 i.opcodeByte = i.word.extractLsb' 56 8 := by
  apply BitVec.eq_of_toNat_eq
  rw [BitVec.toNat_ofNat, BitVec.extractLsb'_toNat, Nat.shiftRight_eq_div_pow, opcodeByte]
  rfl

theorem opcode_eq_ok : i.opcode = .ok opcode ↔ i.opcodeByte = opcode.number := by
  unfold Instruction.opcode
  constructor
  · intro h
    split at h
    next known => cases h; exact (Opcode.number_of_ofNumber? known).symm
    · cases h
  · intro h
    rw [h, Opcode.ofNumber?_number]

theorem opcode_eq_ok_iff_extract :
    i.opcode = .ok opcode ↔ i.word.extractLsb' 56 8 = BitVec.ofNat 8 opcode.number := by
  have byte := i.opcodeByte_lt
  have number := opcode.number_lt
  rw [opcode_eq_ok, ← opcodeByte_eq_extract, ← BitVec.toNat_inj, BitVec.toNat_ofNat,
    BitVec.toNat_ofNat]
  omega

theorem encode_eq_ok {o : Operand} :
    encode opcode o = .ok i ↔
      opcode ≠ .invalid ∧ i.opcode = .ok opcode ∧ i.operand = o := by
  unfold encode
  split
  next invalid => simp [invalid]
  next valid =>
    rw [Except.ok.injEq, opcode_eq_ok]
    constructor
    · rintro rfl
      exact ⟨valid, opcodeByte_pack _ _ _, operand_pack _ _ _⟩
    · rintro ⟨-, byte, rfl⟩
      rw [← pack_opcodeByte_operand i]
      simp [byte]

theorem encode_eq_error {o : Operand} {f : Fault} :
    encode opcode o = .error f ↔ opcode = .invalid ∧ f = .opcodeNotEncodable := by
  unfold encode
  split
  next invalid => simp [invalid, eq_comm]
  next valid => simp [valid]

/-- Another operand takes the place of the low 56 bits. -/
theorem word_setOperand (i : Instruction) (o : Operand) :
    (i.setOperand o).word = i.word.extractLsb' 56 8 ++ o.word := by
  rw [setOperand, word_pack, opcodeByte_eq_extract]

theorem opcode_setOperand (i : Instruction) (o : Operand) :
    (i.setOperand o).opcode = i.opcode := by
  have byte : (i.setOperand o).opcodeByte = i.opcodeByte := opcodeByte_pack _ _ _
  rw [Instruction.opcode, byte, Instruction.opcode]

/-- What is read off an instruction, where absent fields are read as absent. -/
structure Reads (i : Instruction) (opcode : Opcode) (payload : Option (Payload kind))
    (condition : Option BoolRegister) : Prop where
  known : i.opcode = .ok opcode
  hasPayload : i.operand.hasPayload = payload.isSome
  hasCondition : i.operand.hasCondition = condition.isSome
  operand_payload : i.operand.payload kind = payload.elim (.error .payloadMissing) .ok
  operand_condition : i.operand.condition = condition.elim (.error .conditionMissing) .ok
  read_payload : i.payload kind =
    if opcode.payloadKind? = some kind then payload.elim (.error .payloadMissing) .ok
    else .error (.payloadKindRefused opcode kind)
  optional : opcode.payloadKind? = some kind → i.payload? kind = .ok payload
  read_condition : i.condition =
    if opcode.takesCondition = true then condition.elim (.error .conditionMissing) .ok
    else .error (.conditionRefused opcode)

theorem Reads.of_stores {payload : Option (Payload kind)} {condition : Option BoolRegister}
    (known : i.opcode = .ok opcode)
    (stores : i.operand.Stores (payload.map (·.index)) (condition.map (·.index))) :
    i.Reads opcode payload condition := by
  have payload_eq : i.payload kind =
      if opcode.payloadKind? = some kind then payload.elim (.error .payloadMissing) .ok
      else .error (.payloadKindRefused opcode kind) := by
    rw [Instruction.payload, known, ok_bind, stores.read_payload]
    rfl
  refine ⟨known, ?_, ?_, stores.read_payload, stores.read_condition, payload_eq, ?_, ?_⟩
  · rw [stores.hasPayload, Option.isSome_map]
  · rw [stores.hasCondition, Option.isSome_map]
  · intro takes
    rw [payload?, stores.hasPayload, payload_eq, if_pos takes]
    cases payload <;> rfl
  · rw [Instruction.condition, known, ok_bind, stores.read_condition]
    rfl

theorem make_eq (payload : Option (Payload kind)) (condition : Option BoolRegister) :
    make opcode payload condition =
      Operand.empty.withPayload payload >>= (·.withCondition condition) >>= encode opcode := by
  cases payload <;> cases condition <;> simp [make, Operand.withPayload, Operand.withCondition]

/-- The bits of an instruction determine what it was made of. -/
theorem make_injective {kind' : PayloadKind} {opcode' : Opcode} {payload : Option (Payload kind)}
    {payload' : Option (Payload kind')} {condition condition' : Option BoolRegister}
    (made : make opcode payload condition = .ok i) (made' : make opcode' payload' condition' = .ok i) :
    opcode = opcode' ∧ payload.map (·.index) = payload'.map (·.index) ∧ condition = condition' := by
  have first := make_carries made
  have second := make_carries made'
  have injective : Function.Injective fun r : BoolRegister => r.index :=
    fun _ _ h => congrArg Handle.mk h
  obtain ⟨payloads, conditions⟩ := Operand.Stores.inj ⟨first.payload, first.condition⟩
    ⟨second.payload, second.condition⟩
  exact ⟨Except.ok.inj (first.opcode.symm.trans second.opcode), payloads,
    Option.map_injective injective conditions⟩

/-- Fields that fit can be filled in either order, and everything is read back from the word. -/
theorem encode_reads {payload : Option (Payload kind)} {condition : Option BoolRegister}
    (valid : opcode ≠ .invalid) (fits : ∀ r ∈ payload, r.index ≤ Operand.maxPayload)
    (fits' : ∀ r ∈ condition, r.index ≤ Operand.maxCondition) :
    ∃ o i, (Operand.empty.withPayload payload >>= (·.withCondition condition)) = .ok o ∧
      (Operand.empty.withCondition condition >>= (·.withPayload payload)) = .ok o ∧
      encode opcode o = .ok i ∧ make opcode payload condition = .ok i ∧ i.operand = o ∧
      i.word = BitVec.ofNat 8 opcode.number ++
        (BitVec.ofNat 16 (condition.elim 0 (·.index + 1)) ++
          BitVec.ofNat 40 (payload.elim 0 (·.index + 1))) ∧
      i.Reads opcode payload condition := by
  obtain ⟨o, filled, filled', stores⟩ := Operand.filled_either_order fits fits'
  let i := pack opcode.number o (by have := opcode.number_lt; omega)
  have encoded : encode opcode o = .ok i := if_neg valid
  have operand : i.operand = o := operand_pack _ _ _
  have known : i.opcode = .ok opcode := (encode_eq_ok.mp encoded).2.1
  have word : o.word = BitVec.ofNat 16 (condition.elim 0 (·.index + 1)) ++
      BitVec.ofNat 40 (payload.elim 0 (·.index + 1)) := by
    rw [o.word_eq_fields, stores.payload, stores.condition]
    cases payload <;> cases condition <;> rfl
  refine ⟨o, i, filled, filled', encoded, ?_, operand, ?_, ?_⟩
  · rw [make_eq, filled, ok_bind, encoded]
  · rw [word_pack, word]
  · exact .of_stores known (by rw [operand]; exact stores)

/-- The format of instructions loses nothing and lets nothing spill over. -/
theorem encoding_round_trips :
    -- What was stored is read back, whichever field was filled first.
    (∀ (kind : PayloadKind) (opcode : Opcode) (payload : Option (Payload kind))
        (condition : Option BoolRegister), opcode ≠ .invalid →
      (∀ r ∈ payload, r.index ≤ Operand.maxPayload) →
      (∀ r ∈ condition, r.index ≤ Operand.maxCondition) →
      ∃ o i, (Operand.empty.withPayload payload >>= (·.withCondition condition)) = .ok o ∧
        (Operand.empty.withCondition condition >>= (·.withPayload payload)) = .ok o ∧
        encode opcode o = .ok i ∧ make opcode payload condition = .ok i ∧ i.operand = o ∧
        i.word = BitVec.ofNat 8 opcode.number ++
          (BitVec.ofNat 16 (condition.elim 0 (·.index + 1)) ++
            BitVec.ofNat 40 (payload.elim 0 (·.index + 1))) ∧
        i.Reads opcode payload condition) ∧
    -- Different parts give different words.
    (∀ (kind kind' : PayloadKind) (opcode opcode' : Opcode) (payload : Option (Payload kind))
        (payload' : Option (Payload kind')) (condition condition' : Option BoolRegister) i,
      make opcode payload condition = .ok i → make opcode' payload' condition' = .ok i →
      opcode = opcode' ∧ payload.map (·.index) = payload'.map (·.index) ∧
        condition = condition') ∧
    -- These are the faults of filling a field and of encoding, and no others.
    (∀ (kind : PayloadKind) (o : Operand) (payload : Payload kind) f,
      o.setPayload payload = .error f ↔
        o.hasPayload = true ∧ f = .payloadPresent ∨
        o.hasPayload = false ∧ Operand.maxPayload < payload.index ∧
          f = .payloadTooLarge kind payload) ∧
    (∀ (o : Operand) (condition : BoolRegister) f,
      o.setCondition condition = .error f ↔
        o.hasCondition = true ∧ f = .conditionPresent ∨
        o.hasCondition = false ∧ Operand.maxCondition < condition.index ∧
          f = .conditionTooLarge condition) ∧
    (∀ opcode o f, encode opcode o = .error f ↔ opcode = .invalid ∧ f = .opcodeNotEncodable) ∧
    -- A field that is filled holds the value, and the other field stays what it was.
    (∀ (kind : PayloadKind) (o o' : Operand) (payload : Payload kind),
      o.setPayload payload = .ok o' →
        o'.payload kind = .ok payload ∧ o'.hasCondition = o.hasCondition ∧
          o'.condition = o.condition) ∧
    (∀ (o o' : Operand) (condition : BoolRegister), o.setCondition condition = .ok o' →
      o'.condition = .ok condition ∧ o'.hasPayload = o.hasPayload ∧
        ∀ kind, o'.payload kind = o.payload kind) ∧
    -- Replacing the operand of any word keeps its opcode.
    (∀ (i : Instruction) (o : Operand),
      (i.setOperand o).word = i.word.extractLsb' 56 8 ++ o.word ∧
        (i.setOperand o).opcode = i.opcode ∧ (i.setOperand o).operand = o) ∧
    -- Any word with a known opcode is made of its opcode and its operand.
    (∀ (i : Instruction) (opcode : Opcode),
      (i.opcode = .ok opcode ↔ i.word.extractLsb' 56 8 = BitVec.ofNat 8 opcode.number) ∧
        (i.opcode = .ok opcode → opcode ≠ .invalid → encode opcode i.operand = .ok i)) := by
  refine ⟨fun _ _ _ _ valid => encode_reads valid, fun _ _ _ _ _ _ _ _ _ => make_injective,
    fun _ _ _ _ => Operand.setPayload_eq_error, fun _ _ _ => Operand.setCondition_eq_error,
    fun _ _ _ => encode_eq_error, fun _ _ _ _ => Operand.setPayload_keeps,
    fun _ _ _ => Operand.setCondition_keeps,
    fun i o => ⟨word_setOperand i o, opcode_setOperand i o, operand_pack _ _ _⟩,
    fun i opcode => ⟨opcode_eq_ok_iff_extract, fun known valid =>
      encode_eq_ok.mpr ⟨valid, known, rfl⟩⟩⟩

/-- With both fields at their maximum, nothing carries over into the field above. -/
theorem encoding_round_trips_full :
    ∃ i, make .condBranch (some (⟨Operand.maxPayload⟩ : Address)) (some ⟨Operand.maxCondition⟩) = .ok i ∧
      i.word = 0x03FFFFFFFFFFFFFF#64 ∧
      i.Reads .condBranch (some (⟨Operand.maxPayload⟩ : Address)) (some ⟨Operand.maxCondition⟩) := by
  have fits : ∀ r ∈ (some ⟨Operand.maxPayload⟩ : Option Address), r.index ≤ Operand.maxPayload := by
    rintro r ⟨⟩
    exact Nat.le_refl _
  have fits' : ∀ r ∈ (some ⟨Operand.maxCondition⟩ : Option BoolRegister),
      r.index ≤ Operand.maxCondition := by
    rintro r ⟨⟩
    exact Nat.le_refl _
  obtain ⟨o, i, -, -, -, made, -, word, reads⟩ :=
    encoding_round_trips.1 .address .condBranch _ _ (by decide) fits fits'
  exact ⟨i, made, word, reads⟩

end Instruction

end PatternMachine

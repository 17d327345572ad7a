import PatternMachine.Proofs.Instruction.Encoding
import PatternMachine.Proofs.Instruction.Naming
import PatternMachine.Proofs.Text.Words

/-! What is shown of an instruction determines it. A text is the mnemonic and the handles behind it,
separated by blanks; none of these words holds a blank, the sigil of a handle tells its kind, and no two
opcodes have the same mnemonic. -/
namespace PatternMachine

/-! ### Handles -/

/-- The kind of handles that a sigil stands for. -/
def HandleKind.ofSigil? : String → Option HandleKind
  | "@" => some (.payload .address)
  | "" => some (.payload .distance)
  | "%e" => some (.payload .element)
  | "%s" => some (.payload .string)
  | "%p" => some (.payload .predicate)
  | "%f" => some (.payload .consumeFunction)
  | "%r" => some (.payload .position)
  | "%c" => some (.payload .capture)
  | "%b" => some .condition
  | "#" => some .token
  | _ => none

namespace HandleKind

theorem ofSigil?_sigil (kind : HandleKind) : ofSigil? kind.sigil = some kind := by
  rcases kind with kind | _ | _
  · cases kind <;> rfl
  · rfl
  · rfl

theorem sigil_injective {kind kind' : HandleKind} (same : kind.sigil = kind'.sigil) : kind = kind' := by
  rw [← Option.some.injEq, ← ofSigil?_sigil, same, ofSigil?_sigil]

/-- A sigil cannot be taken for a part of the number behind it. -/
theorem sigil_no_digit (kind : HandleKind) : kind.sigil.toList.all (!Char.isDigit ·) = true := by
  rcases kind with kind | _ | _
  · cases kind <;> decide
  · decide
  · decide

theorem sigil_solid (kind : HandleKind) : kind.sigil.toList.all Text.solid = true := by
  rcases kind with kind | _ | _
  · cases kind <;> decide
  · decide
  · decide

end HandleKind

namespace Handle

variable {kind : HandleKind}

theorem toList_text (h : Handle kind) :
    h.text.toList = kind.sigil.toList ++ (toString h.index).toList := String.toList_append

theorem text_solid (h : Handle kind) : h.text.toList.all Text.solid = true := by
  rw [toList_text, List.all_append, kind.sigil_solid, Text.numeral_solid]
  rfl

theorem text_digits (h : Handle kind) :
    h.text.toList.filter Char.isDigit = (toString h.index).toList ∧
      h.text.toList.filter (!Char.isDigit ·) = kind.sigil.toList := by
  have sigil := List.all_eq_true.mp kind.sigil_no_digit
  have digits : ∀ c ∈ (toString h.index).toList, c.isDigit = true :=
    fun c => Text.isDigit_of_mem_numeral
  rw [toList_text, List.filter_append, List.filter_append]
  constructor
  · rw [List.filter_eq_nil_iff.mpr (by simpa using sigil), List.filter_eq_self.mpr digits]
    rfl
  · rw [List.filter_eq_self.mpr sigil, List.filter_eq_nil_iff.mpr (by simpa using digits)]
    simp

end Handle

/-- The text of a handle tells its kind and its number. -/
theorem AnyHandle.text_injective {a b : AnyHandle} (same : a.2.text = b.2.text) : a = b := by
  obtain ⟨kind, n⟩ := a
  obtain ⟨kind', m⟩ := b
  have chars : n.text.toList = m.text.toList := congrArg String.toList same
  obtain ⟨digits, sigil⟩ := n.text_digits
  obtain ⟨digits', sigil'⟩ := m.text_digits
  have kinds : kind = kind' := by
    apply HandleKind.sigil_injective
    rw [← String.toList_inj, ← sigil, chars, sigil']
  have numbers : n.index = m.index := by
    apply Text.numeral_injective
    rw [← digits, chars, digits']
  subst kinds
  cases n
  cases m
  cases numbers
  rfl

/-! ### Mnemonics -/

namespace Opcode

/-- The opcode with a mnemonic. -/
def ofMnemonic? (mnemonic : String) : Option Opcode := all.find? (·.mnemonic = mnemonic)

theorem ofMnemonic?_mnemonic (opcode : Opcode) : ofMnemonic? opcode.mnemonic = some opcode := by
  cases opcode <;> decide

theorem mnemonic_injective {opcode opcode' : Opcode} (same : opcode.mnemonic = opcode'.mnemonic) :
    opcode = opcode' := by
  rw [← Option.some.injEq, ← ofMnemonic?_mnemonic, same, ofMnemonic?_mnemonic]

theorem mnemonic_solid (opcode : Opcode) : opcode.mnemonic.toList.all Text.solid = true := by
  cases opcode <;> decide

/-! ### Texts -/

/-- The handles that are shown behind a mnemonic: the condition and the payload, if they are there. -/
def handles (opcode : Opcode) (payload condition : Option Nat) : List AnyHandle :=
  (condition.map fun n => (⟨.condition, ⟨n⟩⟩ : AnyHandle)).toList ++
    (opcode.payloadKind?.bind fun kind =>
      payload.map fun n => (⟨.payload kind, ⟨n⟩⟩ : AnyHandle)).toList

/-- A mnemonic with the handles behind it. -/
def textWith (opcode : Opcode) (payload condition : Option Nat) : String :=
  opcode.mnemonic ++ condition.elim "" (fun n => " " ++ "%b" ++ toString n) ++
    payload.elim "" fun n => " " ++ opcode.payloadKind?.elim "" PayloadKind.sigil ++ toString n

variable {opcode opcode' : Opcode} {payload payload' condition condition' : Option Nat}

/-- The handles tell which of the two fields they come from, for a condition has a kind of its own. -/
theorem handles_injective (takes : payload.isSome → opcode.payloadKind?.isSome)
    (takes' : payload'.isSome → opcode.payloadKind?.isSome)
    (same : opcode.handles payload condition = opcode.handles payload' condition') :
    payload = payload' ∧ condition = condition' := by
  unfold handles at same
  cases kind : opcode.payloadKind? with
  | none =>
    rw [kind] at takes takes' same
    have absent : payload = none := Option.not_isSome_iff_eq_none.mp (nomatch takes ·)
    have absent' : payload' = none := Option.not_isSome_iff_eq_none.mp (nomatch takes' ·)
    cases condition <;> cases condition' <;> simp_all
  | some kind =>
    cases condition <;> cases condition' <;> cases payload <;> cases payload' <;> simp_all

theorem toList_textWith (takes : payload.isSome → opcode.payloadKind?.isSome) :
    (opcode.textWith payload condition).toList =
      [' '].intercalate (opcode.mnemonic.toList ::
        (opcode.handles payload condition).map (·.2.text.toList)) := by
  unfold textWith handles
  cases kind : opcode.payloadKind? <;> cases payload <;> cases condition <;>
    simp_all [Handle.text, HandleKind.sigil]

theorem words_solid {w : List Char}
    (member : w ∈ opcode.mnemonic.toList ::
      (opcode.handles payload condition).map (·.2.text.toList)) : w.all Text.solid = true := by
  rcases List.mem_cons.mp member with rfl | shown
  · exact opcode.mnemonic_solid
  · obtain ⟨handle, -, rfl⟩ := List.mem_map.mp shown
    exact handle.2.text_solid

theorem words_textWith (takes : payload.isSome → opcode.payloadKind?.isSome) :
    Text.words (opcode.textWith payload condition).toList =
      opcode.mnemonic.toList :: (opcode.handles payload condition).map (·.2.text.toList) := by
  rw [toList_textWith takes]
  exact Text.words_spaced (List.cons_ne_nil _ _) fun _ => words_solid

/-- A text determines what it shows. -/
theorem textWith_injective (takes : payload.isSome → opcode.payloadKind?.isSome)
    (takes' : payload'.isSome → opcode'.payloadKind?.isSome)
    (same : opcode.textWith payload condition = opcode'.textWith payload' condition') :
    opcode = opcode' ∧ payload = payload' ∧ condition = condition' := by
  have split : Text.words (opcode.textWith payload condition).toList = _ := words_textWith takes
  rw [same, words_textWith takes'] at split
  obtain ⟨mnemonics, texts⟩ := List.cons.inj split
  have opcodes : opcode = opcode' := (mnemonic_injective (String.toList_inj.mp mnemonics)).symm
  subst opcodes
  have handles := (List.map_inj_right fun a b alike =>
    AnyHandle.text_injective (String.toList_inj.mp alike)).mp texts
  exact ⟨rfl, handles_injective takes takes' handles.symm⟩

end Opcode

/-! ### Words -/

namespace Instruction

variable {i j : Instruction} {opcode : Opcode} {payload condition : Option Nat}

namespace Carries

theorem stores (h : i.Carries opcode payload condition) : i.operand.Stores payload condition :=
  ⟨h.payload, h.condition⟩

/-- A word is determined by what it carries. -/
theorem unique (h : i.Carries opcode payload condition) (h' : j.Carries opcode payload condition) :
    i = j := by
  have operands : i.operand = j.operand := h.stores.unique h'.stores
  have bytes : i.opcodeByte = j.opcodeByte :=
    (opcode_eq_ok.mp h.opcode).trans (opcode_eq_ok.mp h'.opcode).symm
  rw [← pack_opcodeByte_operand i, ← pack_opcodeByte_operand j]
  simp only [operands, bytes]

theorem text_eq (h : i.Carries opcode payload condition)
    (conditional : condition.isSome → opcode.takesCondition)
    (takes : payload.isSome → opcode.payloadKind?.isSome) :
    i.text = .ok (opcode.textWith payload condition) := by
  have read (c : Nat) (there : condition = some c) : i.operand.condition = .ok ⟨c⟩ := by
    subst there
    simp [Operand.condition, Operand.hasCondition, h.condition]
  have register (c : Nat) : " " ++ (⟨c⟩ : BoolRegister).text = " " ++ "%b" ++ toString c :=
    String.append_assoc.symm
  unfold text
  rw [h.opcode, ok_bind, Opcode.textWith]
  cases payload with
  | none =>
    cases condition with
    | none => cases opcode.payloadKind? <;> simp [h.stores.hasPayload, h.stores.hasCondition]
    | some c =>
      cases opcode.payloadKind? <;>
        simp [h.stores.hasPayload, h.stores.hasCondition, conditional rfl, read c rfl, register]
  | some n =>
    obtain ⟨kind, taken⟩ := Option.isSome_iff_exists.mp (takes rfl)
    have number : " " ++ (⟨n⟩ : Payload kind).text = " " ++ kind.sigil ++ toString n :=
      String.append_assoc.symm
    cases condition with
    | none =>
      simp [taken, h.stores.hasPayload, h.stores.hasCondition, h.payload_eq taken, number]
    | some c =>
      simp [taken, h.stores.hasPayload, h.stores.hasCondition, conditional rfl, read c rfl,
        h.payload_eq taken, register, number]

end Carries

/-- The number in a field, if the field is taken. -/
theorem exists_field (n : Nat) : ∃ value : Option Nat, n = value.elim 0 (· + 1) := by
  cases n with
  | zero => exact ⟨none, rfl⟩
  | succ n => exact ⟨some n, rfl⟩

theorem exists_carries (known : i.opcode = .ok opcode) :
    ∃ payload condition, i.Carries opcode payload condition := by
  obtain ⟨payload, stored⟩ := exists_field i.operand.payloadField
  obtain ⟨condition, stored'⟩ := exists_field i.operand.conditionField
  exact ⟨payload, condition, known, stored, stored'⟩

/-- Reading a payload fails at no word with a known opcode. -/
theorem payloadOf?_ok (kind : PayloadKind) (known : i.opcode = .ok opcode) :
    ∃ payload, i.payloadOf? kind = .ok payload := by
  by_cases takes : opcode.payloadKind? = some kind
  · cases present : i.operand.hasPayload with
    | true => exact ⟨_, payloadOf?_of_payload known takes (payload_ok known takes present)⟩
    | false =>
      refine ⟨none, ?_⟩
      rw [payloadOf?, known, ok_bind, if_pos takes, payload?, if_neg (by simp [present])]
      rfl
  · exact ⟨none, payloadOf?_none known takes⟩

/-- A word with a known opcode, which takes all that the word carries. -/
def WellFormed (i : Instruction) : Prop :=
  ∃ opcode, i.opcode = .ok opcode ∧
    (i.operand.hasCondition = true → opcode.takesCondition = true) ∧
    (i.operand.hasPayload = true → opcode.payloadKind?.isSome = true)

instance (i : Instruction) : Decidable i.WellFormed :=
  let takesAll (opcode : Opcode) : Bool :=
    (!i.operand.hasCondition || opcode.takesCondition) &&
      (!i.operand.hasPayload || opcode.payloadKind?.isSome)
  decidable_of_iff (i.opcode.toOption.any takesAll) <| by
    unfold WellFormed
    cases i.opcode with
    | error f => simp [Except.toOption]
    | ok opcode => simp [takesAll, Except.toOption, Decidable.imp_iff_not_or]

theorem Carries.wellFormed (h : i.Carries opcode payload condition)
    (conditional : condition.isSome → opcode.takesCondition)
    (takes : payload.isSome → opcode.payloadKind?.isSome) : i.WellFormed :=
  ⟨opcode, h.opcode, fun has => conditional (h.stores.hasCondition ▸ has),
    fun has => takes (h.stores.hasPayload ▸ has)⟩

namespace WellFormed

/-- A well-formed word is shown as its mnemonic, its condition and its payload. -/
theorem shown (h : i.WellFormed) :
    ∃ opcode payload condition, i.Carries opcode payload condition ∧
      (payload.isSome → opcode.payloadKind?.isSome) ∧
      i.text = .ok (opcode.textWith payload condition) := by
  obtain ⟨opcode, known, conditional, takes⟩ := h
  obtain ⟨payload, condition, carries⟩ := exists_carries known
  rw [carries.stores.hasCondition] at conditional
  rw [carries.stores.hasPayload] at takes
  exact ⟨opcode, payload, condition, carries, takes, carries.text_eq conditional takes⟩

/-- The text of a well-formed word determines the word. -/
theorem eq_of_text (h : i.WellFormed) (h' : j.WellFormed) (same : i.text = j.text) : i = j := by
  obtain ⟨opcode, payload, condition, carries, takes, text⟩ := h.shown
  obtain ⟨opcode', payload', condition', carries', takes', text'⟩ := h'.shown
  have texts := Except.ok.inj (text.symm.trans (same.trans text'))
  obtain ⟨rfl, rfl, rfl⟩ := Opcode.textWith_injective takes takes' texts
  exact carries.unique carries'

theorem text_solid {text : String} (h : i.WellFormed) (shows : i.text = .ok text) :
    ∀ w ∈ Text.words text.toList, w.all Text.solid = true := by
  obtain ⟨opcode, payload, condition, -, takes, ok⟩ := h.shown
  cases shows.symm.trans ok
  rw [Opcode.words_textWith takes]
  exact fun _ => Opcode.words_solid

end WellFormed

/-! ### Constructors -/

/-- The words that the constructors make, each with any operands that fit. -/
inductive Made (i : Instruction) : Prop
  | nop {comment} (made : nop comment = .ok i)
  | branch {target} (made : branch target = .ok i)
  | condBranch {condition target} (made : condBranch condition target = .ok i)
  | save {target} (made : save target = .ok i)
  | saveAddress {target} (made : saveAddress target = .ok i)
  | clear (made : clear = .ok i)
  | clearThrough {target} (made : clearThrough target = .ok i)
  | restore (made : restore = .ok i)
  | call {target} (made : call target = .ok i)
  | ret (made : ret = .ok i)
  | accept (made : accept = .ok i)
  | fail (made : fail = .ok i)
  | abort {reason} (made : abort reason = .ok i)
  | consume {distance} (made : consume distance = .ok i)
  | consumeBy {function} (made : consumeBy function = .ok i)
  | matchElement {element} (made : matchElement element = .ok i)
  | matchPredicate {predicate} (made : matchPredicate predicate = .ok i)
  | assertion {condition element} (made : assertion condition element = .ok i)
  | movePosition {position} (made : movePosition position = .ok i)
  | comparePosition {condition position} (made : comparePosition condition position = .ok i)
  | beginCapture {capture} (made : beginCapture capture = .ok i)
  | endCapture {capture} (made : endCapture capture = .ok i)
  | backreference {capture} (made : backreference capture = .ok i)
  | print {message} (made : print message = .ok i)

theorem make_wellFormed {kind : PayloadKind} {payload : Option (Payload kind)}
    {condition : Option BoolRegister} (made : make opcode payload condition = .ok i)
    (conditional : condition.isSome → opcode.takesCondition)
    (takes : payload.isSome → opcode.payloadKind?.isSome) : i.WellFormed :=
  (make_carries made).wellFormed (by simpa using conditional) (by simpa using takes)

theorem Made.wellFormed (h : Made i) : i.WellFormed := by
  cases h with
  | clear made | restore made | ret made | accept made | fail made =>
    exact (bare_carries made).wellFormed nofun nofun
  | condBranch made | assertion made | comparePosition made =>
    exact make_wellFormed made (fun _ => rfl) fun _ => rfl
  | _ made => exact make_wellFormed made nofun fun _ => rfl

end Instruction

end PatternMachine

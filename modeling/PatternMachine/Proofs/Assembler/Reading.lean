import PatternMachine.Proofs.Assembler.Extension

/-! Every statement stands in the assembled program as the operation it names: at its place, with its
constants in the pools, and with targets replaced by the addresses of their tokens. -/
namespace PatternMachine

variable {E : Type}

/-- The operation a statement stands for, given the constants of a program and the addresses of
tokens. -/
def Statement.Means (p : Program E) (address : Token → Option Address) :
    Statement E → Operation → Prop
  | .nop comment, op =>
    ∃ r, op = .nop r ∧ r.map (fun r => p.strings[r.index]?) = comment.map some
  | .branch target, op => ∃ a, op = .branch a ∧ address target = some a
  | .condBranch condition target, op => ∃ a, op = .condBranch condition a ∧ address target = some a
  | .save target, op => ∃ a, op = .save a ∧ address target = some a
  | .saveAddress target, op => ∃ a, op = .saveAddress a ∧ address target = some a
  | .clear, op => op = .clear
  | .clearThrough target, op => ∃ a, op = .clearThrough a ∧ address target = some a
  | .restore, op => op = .restore
  | .call target, op => ∃ a, op = .call a ∧ address target = some a
  | .ret, op => op = .ret
  | .accept, op => op = .accept
  | .fail, op => op = .fail
  | .abort reason, op =>
    ∃ r, op = .abort r ∧ r.map (fun r => p.strings[r.index]?) = reason.map some
  | .consume distance, op => op = .consume ⟨distance⟩
  | .consumeBy function, op => op = .consumeBy function
  | .matchElement element, op => ∃ r, op = .matchElement r ∧ p.elements[r.index]? = some element
  | .matchPredicate predicate, op => op = .matchPredicate predicate
  | .assertion element condition, op =>
    ∃ r, op = .assertion r condition ∧ p.elements[r.index]? = some element
  | .movePosition register, op => op = .movePosition register
  | .comparePosition register condition, op => op = .comparePosition register condition
  | .beginCapture register, op => op = .beginCapture register
  | .endCapture register, op => op = .endCapture register
  | .backreference register, op => op = .backreference register
  | .print message, op => ∃ r, op = .print r ∧ p.strings[r.index]? = some message

/-- A statement stands at an address of a program. -/
def Statement.StandsAt (p : Program E) (address : Token → Option Address) (i : Nat)
    (st : Statement E) : Prop :=
  ∃ op, p.operation? i = some op ∧ st.Means p address op

/-- A statement with a target is read with the address of the target. -/
theorem Statement.read_target {p : Program E} {address : Token → Option Address} {i : Nat}
    {target : Token} {a : Address} {make : Address → Operation}
    (stands : ∃ op, p.operation? i = some op ∧ ∃ a, op = make a ∧ address target = some a)
    (bound : address target = some a) : p.operation? i = some (make a) := by
  obtain ⟨op, place, a', rfl, known⟩ := stands
  cases bound.symm.trans known
  exact place

theorem Program.operation?_of_carries {p : Program E} {i : Nat} {instruction : Instruction}
    {opcode : Opcode} {payload condition : Option Nat} {op : Operation}
    (known : p.code[i]? = some instruction) (carries : instruction.Carries opcode payload condition)
    (means : opcode.operation? payload condition = some op) : p.operation? i = some op := by
  simp [operation?, known, carries.decode means, Except.toOption]

namespace Assembler

variable {a b final : Assembler E} {p : Program E}

/-! ### Linking -/

theorem mapM_getElem? {α β ε : Type} {f : α → Except ε β} {xs : List α} {ys : List β}
    (h : xs.mapM f = .ok ys) {i : Nat} {x : α} (known : xs[i]? = some x) :
    ∃ y, f x = .ok y ∧ ys[i]? = some y := by
  induction xs generalizing ys i with
  | nil => cases known
  | cons x' xs ih =>
    rw [List.mapM_cons] at h
    obtain ⟨y, first, h⟩ := bind_eq_ok.mp h
    obtain ⟨rest, others, h⟩ := bind_eq_ok.mp h
    cases h
    cases i with
    | zero => cases known; exact ⟨y, first, rfl⟩
    | succ i => exact ih others known

/-- The program of an assembler has its constants, and its lines with the targets filled in. -/
theorem assemble_spec (h : final.assemble = .ok p) :
    p.elements = final.elements.items ∧ p.strings = final.strings.items ∧
    p.predicates = final.predicates ∧ p.consumeFunctions = final.consumeFunctions ∧
    p.registers.bools = final.nextBool.index ∧ p.registers.positions = final.nextPosition.index ∧
    p.registers.captures = final.nextCapture.index ∧
    ∀ (i : Nat) line, final.lines[i]? = some line →
      ∃ instruction, link final.tokens line = .ok instruction ∧ p.code[i]? = some instruction := by
  obtain ⟨code, linked, h⟩ := bind_eq_ok.mp h
  cases h
  refine ⟨rfl, rfl, rfl, rfl, rfl, rfl, rfl, fun i line known => ?_⟩
  rw [Array.mapM_eq_mapM_toList] at linked
  cases mapped : final.lines.toList.mapM (link final.tokens) with
  | error f => rw [mapped] at linked; cases linked
  | ok instructions =>
    rw [mapped] at linked
    cases linked
    rw [← Array.getElem?_toList] at known
    obtain ⟨instruction, eq, place⟩ := mapM_getElem? mapped known
    exact ⟨instruction, eq, by simpa using place⟩

theorem link_target {tokens : Array (Option Address)} {i linked : Instruction} {token : Token}
    {opcode : Opcode} {condition : Option Nat} (carries : i.Carries opcode none condition)
    (h : link tokens ⟨i, some token⟩ = .ok linked) :
    ∃ address, tokens[token.index]?.join = some address ∧
      linked.Carries opcode (some address.index) condition := by
  unfold link at h
  dsimp only at h
  split at h
  · cases h
  · cases h
  next address known =>
    obtain ⟨operand, set, h⟩ := bind_eq_ok.mp h
    cases h
    exact ⟨address, by rw [known]; rfl, carries.setOperand set⟩

section

variable (h : final.assemble = .ok p) (grows : b.Extends final)

include h grows

/-- A line without a target is read as it was made. -/
theorem push_plain {i : Instruction} {opcode : Opcode} {payload condition : Option Nat}
    {op : Operation} (pushed : a.push i none = .ok b)
    (carries : i.Carries opcode payload condition)
    (means : opcode.operation? payload condition = some op) : p.operation? a.size = some op := by
  obtain ⟨-, known, -⟩ := push_spec pushed
  obtain ⟨-, -, -, -, -, -, -, lines⟩ := assemble_spec h
  obtain ⟨instruction, linked, place⟩ := lines _ _ (grows.lines _ _ known)
  cases linked
  exact Program.operation?_of_carries place carries means

/-- A line with a target is read with the address of its token. -/
theorem push_jump {i : Instruction} {token : Token} {opcode : Opcode} {condition : Option Nat}
    {op : Address → Operation} (pushed : a.push i (some token) = .ok b)
    (carries : i.Carries opcode none condition)
    (means : ∀ n, opcode.operation? (some n) condition = some (op ⟨n⟩)) :
    ∃ address, final.address? token = some address ∧ p.operation? a.size = some (op address) := by
  obtain ⟨-, known, -⟩ := push_spec pushed
  obtain ⟨-, -, -, -, -, -, -, lines⟩ := assemble_spec h
  obtain ⟨instruction, linked, place⟩ := lines _ _ (grows.lines _ _ known)
  obtain ⟨address, bound, carries⟩ := link_target carries linked
  exact ⟨address, bound, Program.operation?_of_carries place carries (means _)⟩

end

/-! ### Statements -/

theorem emit_extends [DecidableEq E] {st : Statement E} (h : a.emit st = .ok b) :
    a.Extends b ∧ b.size = a.size + 1 ∧ b.nextCapture = a.nextCapture := by
  cases st
  case nop comment | abort comment =>
    obtain ⟨i, made, pushed⟩ := bind_eq_ok.mp h
    obtain ⟨grows, -, size, groups⟩ := push_spec pushed
    refine ⟨(a.internString?_extends comment).trans grows, size.trans ?_, groups.trans ?_⟩
    all_goals cases comment <;> rfl
  case matchElement e | assertion e condition =>
    obtain ⟨i, made, pushed⟩ := bind_eq_ok.mp h
    obtain ⟨grows, -, size, groups⟩ := push_spec pushed
    exact ⟨(a.internElement_extends e).trans grows, size, groups⟩
  case print message =>
    obtain ⟨i, made, pushed⟩ := bind_eq_ok.mp h
    obtain ⟨grows, -, size, groups⟩ := push_spec pushed
    exact ⟨(a.internString_extends message).trans grows, size, groups⟩
  all_goals
    obtain ⟨i, made, pushed⟩ := bind_eq_ok.mp h
    obtain ⟨grows, -, size, groups⟩ := push_spec pushed
    exact ⟨grows, size, groups⟩

theorem internString?_means {comment : Option String} (h : final.assemble = .ok p)
    (grows : (a.internString? comment).2.Extends final) :
    (a.internString? comment).1.map (fun r => p.strings[r.index]?) = comment.map some := by
  cases comment with
  | none => rfl
  | some text =>
    obtain ⟨-, strings, -⟩ := assemble_spec h
    have known := grows.strings _ _ (a.strings.intern_getElem? text)
    simpa [internString?, internString, strings] using known

theorem internElement_means [DecidableEq E] {e : E} (h : final.assemble = .ok p)
    (grows : (a.internElement e).2.Extends final) :
    p.elements[(a.internElement e).1.index]? = some e := by
  obtain ⟨elements, -⟩ := assemble_spec h
  rw [elements]
  exact grows.elements _ _ (a.elements.intern_getElem? e)

/-- A statement stands in every program that is assembled later on. -/
theorem emit_stands [DecidableEq E] {st : Statement E} (emitted : a.emit st = .ok b)
    (h : final.assemble = .ok p) (grows : b.Extends final) :
    st.StandsAt p final.address? a.size := by
  cases st
  case nop comment =>
    obtain ⟨i, made, pushed⟩ := bind_eq_ok.mp emitted
    have pushed : (a.internString? comment).2.push i none = .ok b := pushed
    have means := internString?_means h ((push_spec pushed).1.trans grows)
    have reads : Opcode.nop.operation? ((a.internString? comment).1.map (·.index)) none =
        some (.nop (a.internString? comment).1) := by cases comment <;> rfl
    have place := push_plain h grows pushed (Instruction.make_carries made) reads
    have size : (a.internString? comment).2.size = a.size := by cases comment <;> rfl
    exact ⟨.nop (a.internString? comment).1, size ▸ place, _, rfl, means⟩
  case abort comment =>
    obtain ⟨i, made, pushed⟩ := bind_eq_ok.mp emitted
    have pushed : (a.internString? comment).2.push i none = .ok b := pushed
    have means := internString?_means h ((push_spec pushed).1.trans grows)
    have reads : Opcode.abort.operation? ((a.internString? comment).1.map (·.index)) none =
        some (.abort (a.internString? comment).1) := by cases comment <;> rfl
    have place := push_plain h grows pushed (Instruction.make_carries made) reads
    have size : (a.internString? comment).2.size = a.size := by cases comment <;> rfl
    exact ⟨.abort (a.internString? comment).1, size ▸ place, _, rfl, means⟩
  case print message =>
    obtain ⟨i, made, pushed⟩ := bind_eq_ok.mp emitted
    have pushed : (a.internString message).2.push i none = .ok b := pushed
    have grows' : (a.internString? (some message)).2.Extends final := (push_spec pushed).1.trans grows
    have means := internString?_means h grows'
    have place : p.operation? (a.internString message).2.size = some (.print (a.internString message).1) :=
      push_plain h grows pushed (Instruction.make_carries made) rfl
    exact ⟨_, place, _, rfl, Option.some.inj means⟩
  case matchElement e =>
    obtain ⟨i, made, pushed⟩ := bind_eq_ok.mp emitted
    have pushed : (a.internElement e).2.push i none = .ok b := pushed
    have means := internElement_means h ((push_spec pushed).1.trans grows)
    have place : p.operation? (a.internElement e).2.size = some (.matchElement (a.internElement e).1) :=
      push_plain h grows pushed (Instruction.make_carries made) rfl
    exact ⟨_, place, _, rfl, means⟩
  case assertion e condition =>
    obtain ⟨i, made, pushed⟩ := bind_eq_ok.mp emitted
    have pushed : (a.internElement e).2.push i none = .ok b := pushed
    have means := internElement_means h ((push_spec pushed).1.trans grows)
    have place : p.operation? (a.internElement e).2.size =
        some (.assertion (a.internElement e).1 condition) :=
      push_plain h grows pushed (Instruction.make_carries made) rfl
    exact ⟨_, place, _, rfl, means⟩
  case branch target | save target | saveAddress target | clearThrough target | call target |
      condBranch condition target =>
    obtain ⟨i, made, pushed⟩ := bind_eq_ok.mp emitted
    obtain ⟨address, bound, place⟩ :=
      push_jump h grows pushed (Instruction.make_carries made) fun _ => rfl
    exact ⟨_, place, _, rfl, bound⟩
  case clear | restore | ret | accept | fail =>
    obtain ⟨i, made, pushed⟩ := bind_eq_ok.mp emitted
    exact ⟨_, push_plain h grows pushed (Instruction.bare_carries made) rfl, rfl⟩
  all_goals
    obtain ⟨i, made, pushed⟩ := bind_eq_ok.mp emitted
    exact ⟨_, push_plain h grows pushed (Instruction.make_carries made) rfl, rfl⟩

end Assembler

end PatternMachine

import PatternMachine.Program.Basic
import PatternMachine.Proofs.Instruction.Decoding

/-! What an operation names: strings, targets and registers. What is shown behind an instruction is what
its operation names. -/
namespace PatternMachine

/-- A handle of any kind. -/
abbrev AnyHandle := (kind : HandleKind) × Handle kind

/-- The register is one of those that are counted; addresses, distances and tokens are no registers. -/
def RegisterCounts.Has (counts : RegisterCounts) : AnyHandle → Prop
  | ⟨.payload .element, r⟩ => r.index < counts.elements
  | ⟨.payload .string, r⟩ => r.index < counts.strings
  | ⟨.payload .predicate, r⟩ => r.index < counts.predicates
  | ⟨.payload .consumeFunction, r⟩ => r.index < counts.consumeFunctions
  | ⟨.payload .position, r⟩ => r.index < counts.positions
  | ⟨.payload .capture, r⟩ => r.index < counts.captures
  | ⟨.condition, r⟩ => r.index < counts.bools
  | ⟨.payload .address, _⟩ | ⟨.payload .distance, _⟩ | ⟨.token, _⟩ => True

namespace Operation

/-- The string that an operation names. -/
def string? : Operation → Option StringRegister
  | .nop comment => comment
  | .abort reason => reason
  | .print message => some message
  | _ => none

/-- The address that an operation names. -/
def target? : Operation → Option Address
  | .branch target | .condBranch _ target | .save target | .saveAddress target
  | .clearThrough target | .call target => some target
  | _ => none

/-- The registers that an operation names. -/
def registers : Operation → List AnyHandle
  | .nop comment => comment.toList.map (⟨_, ·⟩)
  | .abort reason => reason.toList.map (⟨_, ·⟩)
  | .print message => [⟨_, message⟩]
  | .condBranch condition _ => [⟨_, condition⟩]
  | .consumeBy function => [⟨_, function⟩]
  | .matchElement element => [⟨_, element⟩]
  | .matchPredicate predicate => [⟨_, predicate⟩]
  | .assertion element condition => [⟨_, element⟩, ⟨_, condition⟩]
  | .movePosition register => [⟨_, register⟩]
  | .comparePosition register condition => [⟨_, register⟩, ⟨_, condition⟩]
  | .beginCapture register | .endCapture register | .backreference register => [⟨_, register⟩]
  | _ => []

end Operation

/-! ### Reading the names -/

namespace Instruction

variable {i : Instruction} {op : Operation}

theorem payload_opcode {kind : PayloadKind} {payload : Payload kind} (h : i.payload kind = .ok payload) :
    i.operand.hasPayload = true := by
  obtain ⟨opcode, -, h⟩ := bind_eq_ok.mp h
  split at h
  · unfold Operand.payload at h
    split at h
    · assumption
    · cases h
  · cases h

/-- The optional reading of a payload that can be read. -/
theorem payloadOf?_of_payload {opcode : Opcode} {kind : PayloadKind} {payload : Payload kind}
    (known : i.opcode = .ok opcode) (takes : opcode.payloadKind? = some kind)
    (read : i.payload kind = .ok payload) : i.payloadOf? kind = .ok (some payload) := by
  unfold payloadOf?
  rw [known, ok_bind, if_pos takes, payload?, if_pos (payload_opcode read), read]
  rfl

theorem payloadOf?_none {opcode : Opcode} {kind : PayloadKind} (known : i.opcode = .ok opcode)
    (refuses : opcode.payloadKind? ≠ some kind) : i.payloadOf? kind = .ok none := by
  unfold payloadOf?
  rw [known, ok_bind, if_neg refuses]
  rfl

/-- What is shown behind an instruction is what its operation names. -/
theorem notes_of_decode (h : i.decode = .ok op) :
    i.string? = .ok op.string? ∧ i.target? = .ok op.target? := by
  obtain ⟨opcode, known, h⟩ := bind_eq_ok.mp h
  cases opcode
  case nop | abort =>
    obtain ⟨text, read, h⟩ := bind_eq_ok.mp h
    cases h
    exact ⟨read, payloadOf?_none known nofun⟩
  case print =>
    obtain ⟨text, read, h⟩ := bind_eq_ok.mp h
    cases h
    exact ⟨payloadOf?_of_payload known rfl read, payloadOf?_none known nofun⟩
  case branch | save | saveAddress | clearThrough | call =>
    obtain ⟨target, read, h⟩ := bind_eq_ok.mp h
    cases h
    exact ⟨payloadOf?_none known nofun, payloadOf?_of_payload known rfl read⟩
  case condBranch =>
    obtain ⟨condition, -, h⟩ := bind_eq_ok.mp h
    obtain ⟨target, read, h⟩ := bind_eq_ok.mp h
    cases h
    exact ⟨payloadOf?_none known nofun, payloadOf?_of_payload known rfl read⟩
  case assertion | comparePosition =>
    obtain ⟨_, -, h⟩ := bind_eq_ok.mp h
    obtain ⟨_, -, h⟩ := bind_eq_ok.mp h
    cases h
    exact ⟨payloadOf?_none known nofun, payloadOf?_none known nofun⟩
  case invalid | clear | restore | ret | accept | fail =>
    cases h
    exact ⟨payloadOf?_none known nofun, payloadOf?_none known nofun⟩
  all_goals
    obtain ⟨_, -, h⟩ := bind_eq_ok.mp h
    cases h
    exact ⟨payloadOf?_none known nofun, payloadOf?_none known nofun⟩

end Instruction

theorem Operation.string_mem {op : Operation} {r : StringRegister} (named : op.string? = some r) :
    (⟨_, r⟩ : AnyHandle) ∈ op.registers := by
  cases op with
  | nop | abort => cases named; exact List.mem_singleton_self _
  | print => cases named; exact List.mem_singleton_self _
  | _ => cases named

end PatternMachine

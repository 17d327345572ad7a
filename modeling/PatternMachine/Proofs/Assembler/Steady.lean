import Mathlib.Algebra.Group.Nat.Defs
import PatternMachine.Proofs.Assembler.Registers
import PatternMachine.Proofs.Instruction.Encoding

/-! Calls to an assembler that succeed. As long as statements name what is there, no field is too narrow and
no token is bound twice, every call succeeds and keeps it so. -/
namespace PatternMachine

variable {E : Type}

namespace Instruction

variable {opcode : Opcode}

/-- Fields that fit can be encoded. -/
theorem make_ok {kind : PayloadKind} (valid : opcode ≠ .invalid)
    {payload : Option (Payload kind)} {condition : Option BoolRegister}
    (fits : ∀ r, payload = some r → r.index ≤ Operand.maxPayload)
    (fits' : ∀ r, condition = some r → r.index ≤ Operand.maxCondition) :
    ∃ i, make opcode payload condition = .ok i := by
  obtain ⟨o, i, -, -, -, made, -⟩ := encode_reads valid fits fits'
  exact ⟨i, made⟩

theorem bare_ok (valid : opcode ≠ .invalid) : ∃ i, bare opcode = .ok i := by
  cases made : bare opcode with
  | error f => exact absurd (encode_eq_error.mp made).1 valid
  | ok i => exact ⟨i, rfl⟩

end Instruction

namespace Assembler

/-- What the statement names is there, and its distance fits. -/
structure Knows (a : Assembler E) (st : Statement E) : Prop where
  registers : ∀ h ∈ st.registers, a.counts.Has h
  target : ∀ token, st.target? = some token → token.index < a.tokens.size
  distance : ∀ n, st = .consume n → n ≤ Operand.maxPayload

/-- Statements, tokens and registers do not get fewer. -/
structure Later (a b : Assembler E) : Prop where
  size : a.size ≤ b.size
  tokens : a.tokens.size ≤ b.tokens.size
  positions : a.nextPosition.index ≤ b.nextPosition.index
  bools : a.nextBool.index ≤ b.nextBool.index

namespace Later

variable {a b c : Assembler E}

theorem refl (a : Assembler E) : a.Later a :=
  ⟨Nat.le_refl _, Nat.le_refl _, Nat.le_refl _, Nat.le_refl _⟩

theorem trans (h : a.Later b) (h' : b.Later c) : a.Later c :=
  ⟨Nat.le_trans h.size h'.size, Nat.le_trans h.tokens h'.tokens,
    Nat.le_trans h.positions h'.positions, Nat.le_trans h.bools h'.bools⟩

end Later

/-- The statements so far name what is there, `unbound` are the tokens that have no address yet, and there are
no more constants and registers than statements, except for `slack` that have been made in advance. -/
structure Steady (slack : Nat) (unbound : List Token) (a : Assembler E) : Prop where
  draft : ∃ d : Draft E, a.Follows d ∧ ∀ st ∈ d.statements, a.Knows st
  open_ : ∀ token : Token, a.tokens[token.index]? = some none ↔ token ∈ unbound
  distinct : unbound.Nodup
  elements : a.elements.items.size ≤ a.size
  strings : a.strings.items.size ≤ a.size
  predicates : a.predicates.size ≤ a.size + slack
  consumeFunctions : a.consumeFunctions.size ≤ a.size + slack
  positions : a.nextPosition.index ≤ a.size + slack
  bools : a.nextBool.index ≤ 1
  captures : a.nextCapture.index ≤ 2 ^ 32

variable {a b : Assembler E} {slack : Nat} {unbound unbound' : List Token} {st : Statement E}

theorem Knows.mono (h : a.Knows st) (grows : a.Extends b) (tokens : a.tokens.size ≤ b.tokens.size) :
    b.Knows st where
  registers r member := grows.has (h.registers r member)
  target token named := Nat.lt_of_lt_of_le (h.target token named) tokens
  distance := h.distance

theorem intern_size {α : Type} [DecidableEq α] (pool : Pool α) (x : α) :
    (pool.intern x).1 ≤ pool.items.size ∧ (pool.intern x).2.items.size ≤ pool.items.size + 1 := by
  unfold Pool.intern
  split
  next index found =>
    obtain ⟨i, first, rfl⟩ := Option.map_eq_some_iff.mp found
    exact ⟨Nat.le_of_lt i.isLt, Nat.le_succ _⟩
  next => exact ⟨Nat.le_refl _, Nat.le_of_eq (Array.size_push _)⟩

theorem push_ok {i : Instruction} {target : Option Token} (room : a.size ≤ Operand.maxPayload) :
    ∃ b, a.push i target = .ok b := by
  exact ⟨_, if_pos room⟩

/-- An instruction that can be made can be emitted. -/
theorem emitted_ok {made : Except Fault Instruction} {target : Option Token}
    (ok : ∃ i, made = .ok i) (room : a.size ≤ Operand.maxPayload) :
    ∃ b, (made >>= fun i => a.push i target) = .ok b := by
  obtain ⟨i, rfl⟩ := ok
  exact push_ok room

/-- A register that is there fits into its field. -/
theorem Steady.fits (h : a.Steady slack unbound) (room : a.size + slack < 2 ^ 36)
    {kind : PayloadKind} {r : Payload kind} (has : a.counts.Has ⟨_, r⟩)
    (register : kind ≠ .address ∧ kind ≠ .distance) : r.index ≤ Operand.maxPayload := by
  have top : Operand.maxPayload = 2 ^ 40 - 2 := rfl
  obtain ⟨-, -, -, elements, strings, predicates, consumeFunctions, positions, -, captures⟩ := h
  cases kind with
  | address => exact absurd rfl register.1
  | distance => exact absurd rfl register.2
  | element =>
    have : r.index < a.elements.items.size := has
    omega
  | string =>
    have : r.index < a.strings.items.size := has
    omega
  | predicate =>
    have : r.index < a.predicates.size := has
    omega
  | consumeFunction =>
    have : r.index < a.consumeFunctions.size := has
    omega
  | position =>
    have : r.index < a.nextPosition.index := has
    omega
  | capture =>
    have : r.index < a.nextCapture.index := has
    omega

theorem Steady.fits_condition (h : a.Steady slack unbound) {r : BoolRegister}
    (has : a.counts.Has ⟨_, r⟩) : r.index ≤ Operand.maxCondition := by
  have below : r.index < a.nextBool.index := has
  have top : Operand.maxCondition = 2 ^ 16 - 2 := rfl
  have bools := h.bools
  omega

section

variable [DecidableEq E]

/-- A statement adds at most one element and one string, and no other constant or register. -/
theorem emit_counts (emitted : a.emit st = .ok b) :
    b.elements.items.size ≤ a.elements.items.size + 1 ∧
      b.strings.items.size ≤ a.strings.items.size + 1 ∧ b.predicates = a.predicates ∧
      b.consumeFunctions = a.consumeFunctions ∧ b.nextPosition = a.nextPosition ∧
      b.nextBool = a.nextBool := by
  cases st
  case nop comment | abort comment =>
    obtain ⟨i, made, pushed⟩ := bind_eq_ok.mp emitted
    cases push_eq pushed
    cases comment with
    | none => exact ⟨Nat.le_succ _, Nat.le_succ _, rfl, rfl, rfl, rfl⟩
    | some s => exact ⟨Nat.le_succ _, (intern_size a.strings s).2, rfl, rfl, rfl, rfl⟩
  case print message =>
    obtain ⟨i, made, pushed⟩ := bind_eq_ok.mp emitted
    cases push_eq pushed
    exact ⟨Nat.le_succ _, (intern_size a.strings message).2, rfl, rfl, rfl, rfl⟩
  case matchElement e | assertion e condition =>
    obtain ⟨i, made, pushed⟩ := bind_eq_ok.mp emitted
    cases push_eq pushed
    exact ⟨(intern_size a.elements e).2, Nat.le_succ _, rfl, rfl, rfl, rfl⟩
  all_goals
    obtain ⟨i, made, pushed⟩ := bind_eq_ok.mp emitted
    cases push_eq pushed
    exact ⟨Nat.le_succ _, Nat.le_succ _, rfl, rfl, rfl, rfl⟩

theorem Steady.emit_ok (h : a.Steady slack unbound) (knows : a.Knows st)
    (room : a.size + slack < 2 ^ 36) : ∃ b, a.emit st = .ok b := by
  have top : Operand.maxPayload = 2 ^ 40 - 2 := rfl
  have space : a.size ≤ Operand.maxPayload := by omega
  have elements := h.elements
  have strings := h.strings
  have string (text : Option String) (r : StringRegister)
      (interned : (a.internString? text).1 = some r) : r.index ≤ Operand.maxPayload := by
    cases text with
    | none => cases interned
    | some text =>
      cases interned
      have := (intern_size a.strings text).1
      exact Nat.le_trans this (by omega)
  have element (e : E) (r : ElementRegister) (interned : some (a.internElement e).1 = some r) :
      r.index ≤ Operand.maxPayload := by
    cases interned
    have := (intern_size a.elements e).1
    exact Nat.le_trans this (by omega)
  have register {kind : PayloadKind} (r r' : Payload kind) (member : ⟨_, r⟩ ∈ st.registers)
      (register : kind ≠ .address ∧ kind ≠ .distance) (same : some r = some r') :
      r'.index ≤ Operand.maxPayload := by
    cases same
    exact h.fits room (knows.registers _ member) register
  have condition (r r' : BoolRegister) (member : ⟨_, r⟩ ∈ st.registers) (same : some r = some r') :
      r'.index ≤ Operand.maxCondition := by
    cases same
    exact h.fits_condition (knows.registers _ member)
  cases st
  case nop text | abort text =>
    refine emitted_ok (Instruction.make_ok (by decide) (string text) nofun) ?_
    cases text <;> exact space
  case print message =>
    exact emitted_ok (Instruction.make_ok (by decide) (string (some message)) nofun) space
  case branch | save | saveAddress | clearThrough | call =>
    exact emitted_ok (Instruction.make_ok (by decide) nofun nofun) space
  case condBranch r target =>
    have fits r' := condition r r' (by simp [Statement.registers])
    exact emitted_ok (Instruction.make_ok (by decide) nofun fits) space
  case clear | restore | ret | accept | fail =>
    exact emitted_ok (Instruction.bare_ok (by decide)) space
  case consume n =>
    have fits (r : Distance) (same : some (⟨n⟩ : Distance) = some r) : r.index ≤ Operand.maxPayload := by
      cases same
      exact knows.distance n rfl
    exact emitted_ok (Instruction.make_ok (by decide) fits nofun) space
  case matchElement e =>
    exact emitted_ok (Instruction.make_ok (by decide) (element e) nofun) space
  case assertion e r =>
    have fits r' := condition r r' (by simp [Statement.registers])
    exact emitted_ok (Instruction.make_ok (by decide) (element e) fits) space
  case comparePosition r r' =>
    have fits r'' := register r r'' (by simp [Statement.registers]) (by decide)
    have fits' r'' := condition r' r'' (by simp [Statement.registers])
    exact emitted_ok (Instruction.make_ok (by decide) fits fits') space
  case consumeBy r | matchPredicate r | movePosition r | beginCapture r | endCapture r |
      backreference r =>
    have fits r' := register r r' (by simp [Statement.registers]) (by decide)
    exact emitted_ok (Instruction.make_ok (by decide) fits nofun) space

/-- A statement uses up a register that was made in advance. -/
theorem Steady.emit (h : a.Steady slack unbound) (knows : a.Knows st)
    (room : a.size + slack < 2 ^ 36) :
    ∃ b, a.emit st = .ok b ∧ b.Steady (slack - 1) unbound ∧ b.size = a.size + 1 ∧ a.Later b := by
  obtain ⟨b, emitted⟩ := h.emit_ok knows room
  obtain ⟨grows, size, groups⟩ := emit_extends emitted
  obtain ⟨tokens, -⟩ := emit_line emitted
  obtain ⟨elements, strings, predicates, consumeFunctions, positions, bools⟩ := emit_counts emitted
  obtain ⟨d, follows, known⟩ := h.draft
  refine ⟨b, emitted, ⟨⟨_, follows.emit emitted, ?_⟩, ?_, h.distinct, ?_, ?_, ?_, ?_, ?_, ?_, ?_⟩,
    size, ⟨?_, ?_, ?_, ?_⟩⟩
  · have same : a.tokens.size ≤ b.tokens.size := Nat.le_of_eq (by rw [tokens])
    intro st' member
    rcases List.mem_append.mp member with old | new
    · exact (known st' old).mono grows same
    · cases List.mem_singleton.mp new
      exact knows.mono grows same
  · intro token
    rw [tokens]
    exact h.open_ token
  · have := h.elements
    omega
  · have := h.strings
    omega
  · have := h.predicates
    rw [predicates]
    omega
  · have := h.consumeFunctions
    rw [consumeFunctions]
    omega
  · have := h.positions
    rw [positions]
    omega
  · rw [bools]
    exact h.bools
  · rw [groups]
    exact h.captures
  · omega
  · exact Nat.le_of_eq (by rw [tokens])
  · exact Nat.le_of_eq (by rw [positions])
  · exact Nat.le_of_eq (by rw [bools])

end

/-! ### Tokens -/

theorem Steady.perm (h : a.Steady slack unbound) (perm : unbound.Perm unbound') :
    a.Steady slack unbound' :=
  { h with
    open_ := fun token => (h.open_ token).trans perm.mem_iff
    distinct := perm.nodup_iff.mp h.distinct }

/-- Before anything is emitted there are only registers of capture groups. -/
theorem Steady.start {n : Nat} (few : n ≤ 2 ^ 32) :
    ({ empty with nextCapture := ⟨n⟩ } : Assembler E).Steady 0 [] := by
  have follows : ({ empty with nextCapture := ⟨n⟩ } : Assembler E).Follows .blank :=
    ⟨rfl, fun _ => rfl, nofun, nofun, nofun⟩
  refine ⟨⟨.blank, follows, nofun⟩, ?_, .nil, ?_, ?_, ?_, ?_, ?_, Nat.zero_le 1, few⟩
  · intro token
    simp [empty]
  all_goals exact Nat.le_refl 0

/-- A token without an address has been made. -/
theorem Steady.made (h : a.Steady slack unbound) {token : Token} (member : token ∈ unbound) :
    token.index < a.tokens.size :=
  (Array.getElem?_eq_some_iff.mp ((h.open_ token).mpr member)).1

/-- A call that changes neither lines nor tokens. -/
theorem Steady.keep (h : a.Steady slack unbound) {slack' : Nat} (grows : a.Extends b)
    (lines : b.lines = a.lines) (tokens : b.tokens = a.tokens)
    (elements : b.elements.items.size ≤ a.size) (strings : b.strings.items.size ≤ a.size)
    (predicates : b.predicates.size ≤ a.size + slack')
    (consumeFunctions : b.consumeFunctions.size ≤ a.size + slack')
    (positions : b.nextPosition.index ≤ a.size + slack') (bools : b.nextBool.index ≤ 1)
    (captures : b.nextCapture.index ≤ 2 ^ 32) : b.Steady slack' unbound := by
  have size : b.size = a.size := congrArg Array.size lines
  obtain ⟨d, follows, known⟩ := h.draft
  refine ⟨⟨d, ?_, ?_⟩, ?_, h.distinct, ?_, ?_, ?_, ?_, ?_, bools, captures⟩
  · exact follows.keep grows lines fun token => by rw [address?, address?, tokens]
  · exact fun st member => (known st member).mono grows (Nat.le_of_eq (by rw [tokens]))
  · intro token
    rw [tokens]
    exact h.open_ token
  all_goals omega

theorem Steady.makeToken (h : a.Steady slack unbound) :
    a.makeToken.2.Steady slack (a.makeToken.1 :: unbound) ∧ a.Later a.makeToken.2 := by
  obtain ⟨d, follows, known⟩ := h.draft
  have grows := a.makeToken_extends
  have more : a.tokens.size ≤ a.makeToken.2.tokens.size := by simp [Assembler.makeToken]
  have fresh : a.makeToken.1 ∉ unbound := by
    intro member
    have := h.made member
    simp [Assembler.makeToken] at this
  refine ⟨{ h with draft := ⟨d, ?_, ?_⟩, open_ := ?_, distinct := ?_ },
    { Later.refl a with tokens := more }⟩
  · refine follows.keep grows rfl fun token => ?_
    simp only [Assembler.makeToken, address?, Array.getElem?_push]
    split
    next last => rw [last, Array.getElem?_eq_none (Nat.le_refl _)]; rfl
    · rfl
  · exact fun st member => (known st member).mono grows more
  · intro token
    rw [List.mem_cons, ← h.open_ token]
    simp only [Assembler.makeToken, Array.getElem?_push]
    by_cases last : token.index = a.tokens.size
    · have same : token = ⟨a.tokens.size⟩ := congrArg Handle.mk last
      simp [same]
    · have other : token ≠ ⟨a.tokens.size⟩ := by
        rintro rfl
        exact last rfl
      simp [last, other]
  · exact List.nodup_cons.mpr ⟨fresh, h.distinct⟩

/-- A token that has no address yet can be bound to the next instruction. -/
theorem Steady.label {token : Token} (h : a.Steady slack (token :: unbound)) :
    ∃ b, a.label token = .ok b ∧ b.Steady slack unbound ∧ b.size = a.size ∧ a.Later b := by
  obtain ⟨d, follows, known⟩ := h.draft
  have free := (h.open_ token).mpr List.mem_cons_self
  have labelled : a.label token =
      .ok { a with tokens := a.tokens.setIfInBounds token.index (some a.here) } := by
    simp only [Assembler.label, Assembler.bind, free]
  have grows := (bind_spec labelled).1
  have place : a.here.index ≤ d.statements.length := Nat.le_of_eq follows.size
  have kept : a.tokens.size = (a.tokens.setIfInBounds token.index (some a.here)).size := by simp
  refine ⟨_, labelled, ?_, rfl, { Later.refl a with tokens := Nat.le_of_eq kept }⟩
  refine { h with draft := ⟨_, follows.bind labelled place, ?_⟩, open_ := ?_, distinct := ?_ }
  · exact fun st member => (known st member).mono grows (Nat.le_of_eq kept)
  · intro other
    have member := h.open_ other
    rw [List.mem_cons] at member
    have once : token ∉ unbound := (List.nodup_cons.mp h.distinct).1
    by_cases same : other = token
    · subst same
      simp [once, h.made List.mem_cons_self]
    · have apart : token.index ≠ other.index := by
        intro eq
        apply same
        cases other
        cases token
        exact congrArg Handle.mk eq.symm
      simpa [Array.getElem?_setIfInBounds, apart, same] using member
  · exact (List.nodup_cons.mp h.distinct).2

end Assembler

end PatternMachine

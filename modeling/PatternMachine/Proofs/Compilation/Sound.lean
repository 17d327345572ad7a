import PatternMachine.Proofs.Assembler.Steady
import PatternMachine.Proofs.Compilation.Stepwise
import PatternMachine.Proofs.Layout.Program

/-! Steps of a compilation that do not break any contract, as long as the tokens that are awaited are the
ones without an address, and the size stays far below what addresses can name. -/
namespace PatternMachine

variable {E : Type}

namespace Pattern

mutual

/-- All literals are shorter than this. -/
def LiteralsBelow (n : Nat) : Pattern E → Prop
  | literal elements => elements.length < n
  | concat parts => AllLiteralsBelow n parts
  | alternation branches => AllLiteralsBelow n branches
  | repetition _ _ body => body.LiteralsBelow n
  | capture _ _ body => body.LiteralsBelow n
  | lookahead _ body => body.LiteralsBelow n
  | atomic body => body.LiteralsBelow n
  | empty | any | element _ | predicate _ | consumer _ | anchor _ | backreference _ | reference _ => True

def AllLiteralsBelow (n : Nat) : List (Pattern E) → Prop
  | [] => True
  | q :: rest => q.LiteralsBelow n ∧ AllLiteralsBelow n rest

end

end Pattern

namespace Compilation

/-- No contract is broken, and what comes out is as said. The pattern may still be wrong. -/
def Safe {α : Type} (post : α → Prop) : Outcome α → Prop
  | .ok a => post a
  | .error e => ∃ what, e = .error what

namespace Safe

variable {α β : Type} {post : α → Prop} {post' : β → Prop} {outcome : Outcome α}

theorem bind {f : α → Outcome β} (h : Safe post outcome) (h' : ∀ a, post a → Safe post' (f a)) :
    Safe post' (outcome >>= f) := by
  rcases outcome with e | a
  · exact h
  · exact h' a h

theorem mono {post' : α → Prop} (h : Safe post outcome) (le : ∀ a, post a → post' a) :
    Safe post' outcome := by
  rcases outcome with e | a
  · exact h
  · exact le a h

end Safe

/-- The state of a compilation with `n` capture groups between two steps. The tokens in `awaited` are those
that the code around is going to bind. -/
structure Sound (n slack : Nat) (awaited : List Token) (c : Compilation E) : Prop where
  assembler : c.assembler.Steady slack (awaited ++ c.pending.map (·.entry))
  entries : ∀ name token, c.entries.lookup name = some token →
    token.index < c.assembler.tokens.size
  unprogressed : c.progress = none → c.assembler.nextBool = ⟨0⟩
  progressed : ∀ register, c.progress = some register →
    register.index < c.assembler.nextBool.index
  groups : Grouped c.captures c.assembler.nextCapture.index
  count : c.captures.size = n
  limit : c.limit ≤ 2 ^ 32
  productions : ∀ q ∈ c.productions, q.2.LiteralsBelow (2 ^ 32) ∧ q.2.captureCount ≤ n
  waiting : ∀ q ∈ c.pending, c.productions.lookup q.name = some q.body

/-- The state `k` instructions later. -/
structure After (n slack : Nat) (awaited : List Token) (k : Nat) (c d : Compilation E) : Prop where
  sound : d.Sound n slack awaited
  size : d.size = c.size + k
  later : c.assembler.Later d.assembler

variable {n slack slack' : Nat} {awaited awaited' : List Token} {b c d : Compilation E}

theorem After.trans {k k' : Nat} (h : After n slack awaited k b c)
    (h' : After n slack' awaited' k' c d) : After n slack' awaited' (k + k') b d := by
  have size := h.size
  have size' := h'.size
  exact ⟨h'.sound, by omega, h.later.trans h'.later⟩

/-- One step of a sequence. -/
theorem Safe.then {outcome : Outcome (Compilation E)} {f : Emission E} {post : Compilation E → Prop}
    {k k' : Nat} (h : After n slack awaited k b c)
    (step : Safe (After n slack' awaited' k' c) outcome)
    (rest : ∀ d, After n slack' awaited' (k + k') b d → Safe post (f d)) :
    Safe post (outcome >>= f) :=
  step.bind fun d after => rest d (h.trans after)

namespace Sound

theorem still (h : c.Sound n slack awaited) : After n slack awaited 0 c c := ⟨h, rfl, .refl _⟩

/-- A call to the assembler that does not make bool registers or capture groups. -/
theorem step (h : c.Sound n slack awaited) {assembler : Assembler E}
    (steady : assembler.Steady slack' (awaited' ++ c.pending.map (·.entry)))
    (later : c.assembler.Later assembler) (bools : assembler.nextBool = c.assembler.nextBool)
    (groups : assembler.nextCapture = c.assembler.nextCapture) :
    Sound n slack' awaited' { c with assembler } :=
  { h with
    assembler := steady
    entries := fun name token known => Nat.lt_of_lt_of_le (h.entries name token known) later.tokens
    unprogressed := fun none => bools.trans (h.unprogressed none)
    progressed := fun register known => by
      rw [bools]
      exact h.progressed register known
    groups := by
      rw [groups]
      exact h.groups }

/-- An awaited token has been made. -/
theorem made (h : c.Sound n slack awaited) {token : Token} (member : token ∈ awaited) :
    token.index < c.assembler.tokens.size := h.assembler.made (List.mem_append_left _ member)

theorem perm (h : c.Sound n slack awaited) (perm : awaited.Perm awaited') :
    c.Sound n slack awaited' :=
  { h with assembler := h.assembler.perm (perm.append_right _) }

theorem swap {token token' : Token} (h : c.Sound n slack (token :: token' :: awaited)) :
    c.Sound n slack (token' :: token :: awaited) := h.perm (.swap _ _ _)

/-- A new token is awaited. -/
theorem makeToken {token : Token} (h : c.Sound n slack awaited) (made : c.makeToken = (token, d)) :
    After n slack (token :: awaited) 0 c d := by
  cases made
  obtain ⟨steady, later⟩ := h.assembler.makeToken
  exact ⟨h.step steady later rfl rfl, rfl, later⟩

theorem label {token : Token} (h : c.Sound n slack (token :: awaited)) :
    Safe (After n slack awaited 0 c) (c.label token) := by
  obtain ⟨assembler, labelled, steady, size, later⟩ := h.assembler.label
  have bound : c.label token = .ok { c with assembler } := by
    rw [Compilation.label, labelled]
    rfl
  rw [bound]
  unfold Assembler.label Assembler.bind at labelled
  split at labelled <;> cases labelled
  exact ⟨h.step steady later rfl rfl, size, later⟩

theorem checkSize (h : c.Sound n slack awaited) :
    Safe (fun d => d = c ∧ c.size ≤ 2 ^ 32) c.checkSize := by
  have limit := h.limit
  unfold Compilation.checkSize
  split
  · exact ⟨.tooLarge, rfl⟩
  · exact ⟨rfl, by omega⟩

/-- A position register that is made in advance. -/
theorem makePosition (h : c.Sound n slack awaited) (room : c.size + slack < 2 ^ 36) :
    Safe (fun made => After n (slack + 1) awaited 0 c made.2 ∧
      made.1.index < made.2.assembler.nextPosition.index) c.makePosition := by
  have steady := h.assembler
  have positions := steady.positions
  have top : UInt64.size = 2 ^ 64 := rfl
  have size : c.size = c.assembler.size := rfl
  have next : c.assembler.nextPosition.successor = .ok c.assembler.nextPosition.next := by
    unfold Handle.successor
    rw [if_pos (by omega)]
  have made : c.assembler.makePositionRegister = .ok (c.assembler.nextPosition,
      { c.assembler with nextPosition := c.assembler.nextPosition.next }) := by
    unfold Assembler.makePositionRegister
    rw [next]
    rfl
  have grows := (Assembler.makePositionRegister_spec made).1
  have predicates := steady.predicates
  have consumers := steady.consumeFunctions
  let assembler := { c.assembler with nextPosition := c.assembler.nextPosition.next }
  have steady' : assembler.Steady (slack + 1) (awaited ++ c.pending.map (·.entry)) :=
    steady.keep grows rfl rfl steady.elements steady.strings (Nat.le_succ_of_le predicates)
      (Nat.le_succ_of_le consumers) (Nat.succ_le_succ positions) steady.bools steady.captures
  have later : c.assembler.Later assembler :=
    { Assembler.Later.refl c.assembler with positions := Nat.le_succ _ }
  unfold Compilation.makePosition
  rw [made]
  exact ⟨⟨h.step steady' later rfl rfl, rfl, later⟩, Nat.lt_succ_self _⟩

/-- There is one register for all progress checks. -/
theorem progressRegister (h : c.Sound n slack awaited) :
    Safe (fun made => After n slack awaited 0 c made.2 ∧
      made.1.index < made.2.assembler.nextBool.index) c.progressRegister := by
  unfold Compilation.progressRegister
  cases known : c.progress with
  | some register => exact ⟨⟨h, rfl, .refl _⟩, h.progressed register known⟩
  | none =>
    have zero := h.unprogressed known
    have made : c.assembler.makeBoolRegister =
        .ok (⟨0⟩, { c.assembler with nextBool := ⟨1⟩ }) := by
      unfold Assembler.makeBoolRegister
      rw [zero]
      rfl
    have grows := (Assembler.makeBoolRegister_spec made).1
    have steady := h.assembler
    have steady' := steady.keep grows rfl rfl steady.elements steady.strings steady.predicates
      steady.consumeFunctions steady.positions (Nat.le_refl 1) steady.captures
    rw [made]
    have more : c.assembler.nextBool.index ≤ 1 := steady.bools
    refine ⟨⟨?_, rfl, { Assembler.Later.refl c.assembler with bools := more }⟩, Nat.lt_succ_self 0⟩
    refine { h with assembler := steady', unprogressed := nofun, progressed := ?_ }
    intro register same
    cases same
    exact Nat.lt_succ_self 0

/-- A group has a register if it has a number below `n`. -/
theorem group (h : c.Sound n slack awaited) {index : Nat} (below : index < n) :
    c.captures[index]? = some ⟨index⟩ := by
  have inside : index < c.captures.size := by rwa [h.count]
  have known := Array.getElem?_eq_getElem inside
  rwa [(h.groups index _ known).1] at known

theorem group_has (h : c.Sound n slack awaited) {index : Nat} (below : index < n) :
    c.assembler.counts.Has ⟨_, (⟨index⟩ : CaptureRegister)⟩ := (h.groups index _ (h.group below)).2

/-- Productions are met with the tokens that they are entered at. -/
theorem entry (h : c.Sound n slack awaited) (name : String) :
    Safe (fun met => After n slack awaited 0 c met.2 ∧
      met.1.index < met.2.assembler.tokens.size) (c.entry name) := by
  unfold Compilation.entry
  cases known : c.entries.lookup name with
  | some token => exact ⟨⟨h, rfl, .refl _⟩, h.entries name token known⟩
  | none =>
    cases found : c.productions.lookup name with
    | none => exact ⟨_, rfl⟩
    | some body =>
      obtain ⟨steady, later⟩ := h.assembler.makeToken
      have made : c.assembler.makeToken.1.index < c.assembler.makeToken.2.tokens.size :=
        steady.made List.mem_cons_self
      refine ⟨⟨?_, rfl, later⟩, made⟩
      refine { h with assembler := steady.perm List.perm_middle.symm, entries := ?_, waiting := ?_ }
      · intro name' token' entered
        rw [List.lookup_cons] at entered
        split at entered
        · cases entered
          exact made
        · exact Nat.lt_of_lt_of_le (h.entries name' token' entered) later.tokens
      · intro q member
        rcases List.mem_cons.mp member with rfl | member
        · exact found
        · exact h.waiting q member

variable [DecidableEq E]

theorem emit {st : Statement E} (h : c.Sound n slack awaited) (knows : c.assembler.Knows st)
    (room : c.size + slack < 2 ^ 36) :
    Safe (After n (slack - 1) awaited 1 c) (c.emit st) := by
  obtain ⟨assembler, emitted, steady, size, later⟩ := h.assembler.emit knows room
  have done : c.emit st = .ok { c with assembler } := by
    rw [Compilation.emit, emitted]
    rfl
  obtain ⟨-, -, -, -, -, bools⟩ := Assembler.emit_counts emitted
  obtain ⟨-, -, groups⟩ := Assembler.emit_extends emitted
  rw [done]
  exact ⟨h.step steady later bools groups, size, later⟩

/-- A statement without operands. -/
theorem emit_plain {st : Statement E} (h : c.Sound n slack awaited) (plain : st.registers = [])
    (stays : st.target? = none) (still : ∀ n, st ≠ .consume n)
    (room : c.size + slack < 2 ^ 36) : Safe (After n (slack - 1) awaited 1 c) (c.emit st) := by
  refine h.emit ⟨?_, ?_, fun n eq => absurd eq (still n)⟩ room
  · simp [plain]
  · simp [stays]

/-- A jump to a token that has been made. -/
theorem emit_jump {st : Statement E} {token : Token} (h : c.Sound n slack awaited)
    (made : token.index < c.assembler.tokens.size) (plain : st.registers = [])
    (jumps : st.target? = some token) (room : c.size + slack < 2 ^ 36) :
    Safe (After n (slack - 1) awaited 1 c) (c.emit st) := by
  refine h.emit ⟨?_, ?_, ?_⟩ room
  · simp [plain]
  · intro token' named
    rw [jumps] at named
    cases named
    exact made
  · rintro n rfl
    cases jumps

/-- A statement with a register that has been made. -/
theorem emit_register {st : Statement E} {r : AnyHandle} (h : c.Sound n slack awaited)
    (has : c.assembler.counts.Has r) (named : st.registers = [r]) (stays : st.target? = none)
    (room : c.size + slack < 2 ^ 36) : Safe (After n (slack - 1) awaited 1 c) (c.emit st) := by
  refine h.emit ⟨?_, ?_, ?_⟩ room
  · intro r' member
    rw [named] at member
    cases List.mem_singleton.mp member
    exact has
  · simp [stays]
  · rintro n rfl
    cases named

theorem emitPredicate (h : c.Sound n slack awaited) (p : E → Bool)
    (room : c.size + slack + 1 < 2 ^ 36) : Safe (After n slack awaited 1 c) (c.emitPredicate p) := by
  have steady := h.assembler
  let assembler := (c.assembler.addPredicate p).2
  have more : assembler.predicates.size = c.assembler.predicates.size + 1 := Array.size_push _
  have predicates := steady.predicates
  have steady' : assembler.Steady (slack + 1) (awaited ++ c.pending.map (·.entry)) :=
    steady.keep (c.assembler.addPredicate_extends p) rfl rfl steady.elements steady.strings
      (by omega) (Nat.le_succ_of_le steady.consumeFunctions) (Nat.le_succ_of_le steady.positions)
      steady.bools steady.captures
  have later : c.assembler.Later assembler := { Assembler.Later.refl c.assembler with }
  have sound := h.step steady' later rfl rfl
  have has : assembler.counts.Has ⟨_, (c.assembler.addPredicate p).1⟩ :=
    Nat.lt_of_lt_of_eq (Nat.lt_succ_self _) more.symm
  refine (sound.emit_register has rfl rfl room).mono fun d after => ?_
  exact ⟨after.sound, after.size, later.trans after.later⟩

theorem emitConsumer (h : c.Sound n slack awaited) (f : ConsumeFunction E)
    (room : c.size + slack + 1 < 2 ^ 36) : Safe (After n slack awaited 1 c) (c.emitConsumer f) := by
  have steady := h.assembler
  let assembler := (c.assembler.addConsumeFunction f).2
  have more : assembler.consumeFunctions.size = c.assembler.consumeFunctions.size + 1 :=
    Array.size_push _
  have consumers := steady.consumeFunctions
  have steady' : assembler.Steady (slack + 1) (awaited ++ c.pending.map (·.entry)) :=
    steady.keep (c.assembler.addConsumeFunction_extends f) rfl rfl steady.elements steady.strings
      (Nat.le_succ_of_le steady.predicates) (by omega) (Nat.le_succ_of_le steady.positions)
      steady.bools steady.captures
  have later : c.assembler.Later assembler := { Assembler.Later.refl c.assembler with }
  have sound := h.step steady' later rfl rfl
  have has : assembler.counts.Has ⟨_, (c.assembler.addConsumeFunction f).1⟩ :=
    Nat.lt_of_lt_of_eq (Nat.lt_succ_self _) more.symm
  refine (sound.emit_register has rfl rfl room).mono fun d after => ?_
  exact ⟨after.sound, after.size, later.trans after.later⟩

end Sound

end Compilation

end PatternMachine

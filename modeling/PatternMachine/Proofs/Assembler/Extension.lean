import PatternMachine.Assembler
import PatternMachine.Proofs.Instruction.Decoding

/-! Appending statements keeps what is there: lines, constants, and the addresses that tokens are
bound to. So what a statement means can be read off any program that is assembled later on. -/
namespace PatternMachine

/-- `xs` is the beginning of `ys`. -/
def Begins {α : Type} (xs ys : Array α) : Prop :=
  ∀ (i : Nat) (x : α), xs[i]? = some x → ys[i]? = some x

namespace Begins

variable {α : Type} {xs ys zs : Array α}

theorem refl (xs : Array α) : Begins xs xs := fun _ _ h => h

theorem trans (h : Begins xs ys) (h' : Begins ys zs) : Begins xs zs :=
  fun i x known => h' i x (h i x known)

theorem push (xs : Array α) (x : α) : Begins xs (xs.push x) := by
  intro i y known
  obtain ⟨bound, rfl⟩ := Array.getElem?_eq_some_iff.mp known
  exact Array.getElem?_push_lt bound

theorem size_le (h : Begins xs ys) : xs.size ≤ ys.size := by
  apply Nat.le_of_not_lt
  intro longer
  obtain ⟨inside, -⟩ := Array.getElem?_eq_some_iff.mp (h ys.size _ (Array.getElem?_eq_getElem longer))
  exact Nat.lt_irrefl _ inside

end Begins

namespace Pool

variable {α : Type} [DecidableEq α]

theorem intern_begins (pool : Pool α) (a : α) : Begins pool.items (pool.intern a).2.items := by
  unfold intern
  split
  · exact .refl _
  · exact .push _ _

/-- The index of a value leads to the value. -/
theorem intern_getElem? (pool : Pool α) (a : α) :
    (pool.intern a).2.items[(pool.intern a).1]? = some a := by
  unfold intern
  split
  next index found =>
    obtain ⟨i, first, rfl⟩ := Option.map_eq_some_iff.mp found
    obtain ⟨same, -⟩ := Array.finIdxOf?_eq_some_iff.mp first
    exact (Array.getElem?_eq_getElem i.isLt).trans (congrArg some same)
  · exact Array.getElem?_push_size

end Pool

variable {E : Type}

/-- The operation at an address, if there is one that can be decoded. -/
def Program.operation? (p : Program E) (i : Nat) : Option Operation :=
  p.code[i]?.bind fun instruction => instruction.decode.toOption

namespace Assembler

/-- The address a token is bound to. -/
def address? (a : Assembler E) (token : Token) : Option Address := a.tokens[token.index]?.join

/-- Everything of `a` is in `b`. -/
structure Extends (a b : Assembler E) : Prop where
  lines : Begins a.lines b.lines
  elements : Begins a.elements.items b.elements.items
  strings : Begins a.strings.items b.strings.items
  predicates : Begins a.predicates b.predicates
  consumeFunctions : Begins a.consumeFunctions b.consumeFunctions
  address : ∀ token address, a.address? token = some address → b.address? token = some address
  bools : a.nextBool.index ≤ b.nextBool.index
  positions : a.nextPosition.index ≤ b.nextPosition.index
  captures : a.nextCapture.index ≤ b.nextCapture.index

namespace Extends

variable {a b c : Assembler E}

theorem refl (a : Assembler E) : a.Extends a :=
  ⟨.refl _, .refl _, .refl _, .refl _, .refl _, fun _ _ h => h, Nat.le_refl _, Nat.le_refl _,
    Nat.le_refl _⟩

theorem trans (h : a.Extends b) (h' : b.Extends c) : a.Extends c where
  lines := h.lines.trans h'.lines
  elements := h.elements.trans h'.elements
  strings := h.strings.trans h'.strings
  predicates := h.predicates.trans h'.predicates
  consumeFunctions := h.consumeFunctions.trans h'.consumeFunctions
  address token address bound := h'.address token address (h.address token address bound)
  bools := Nat.le_trans h.bools h'.bools
  positions := Nat.le_trans h.positions h'.positions
  captures := Nat.le_trans h.captures h'.captures

end Extends

/-! ### Tokens and registers -/

section

variable {a b : Assembler E}

theorem makeToken_extends (a : Assembler E) : a.Extends a.makeToken.2 := by
  refine { Extends.refl a with address := ?_ }
  intro token address bound
  unfold address? at bound ⊢
  cases known : a.tokens[token.index]? with
  | none => rw [known] at bound; cases bound
  | some slot =>
    have kept := Begins.push a.tokens none _ _ known
    rw [known] at bound
    simpa [makeToken, kept] using bound

theorem bind_spec {token : Token} {address : Address} (h : a.bind token address = .ok b) :
    a.Extends b ∧ b.address? token = some address ∧ b.lines = a.lines ∧
      b.nextCapture = a.nextCapture := by
  unfold bind at h
  split at h
  · cases h
  · cases h
  next free =>
    cases h
    have bound : token.index < a.tokens.size := (Array.getElem?_eq_some_iff.mp free).1
    refine ⟨{ Extends.refl a with address := ?_ }, ?_, rfl, rfl⟩
    · intro token' address' known
      unfold address? at known ⊢
      by_cases same : token.index = token'.index
      · rw [← same, free] at known; cases known
      · simpa [Array.getElem?_setIfInBounds, same] using known
    · simp [address?, bound]

theorem makeBoolRegister_spec {register : BoolRegister}
    (h : a.makeBoolRegister = .ok (register, b)) :
    a.Extends b ∧ register.index < b.nextBool.index ∧ b.lines = a.lines ∧
      b.nextCapture = a.nextCapture := by
  unfold makeBoolRegister at h
  split at h
  · cases h
    exact ⟨{ Extends.refl a with bools := Nat.le_succ _ }, Nat.lt_succ_self _, rfl, rfl⟩
  · cases h

theorem successor_eq {kind : HandleKind} {h h' : Handle kind} (eq : h.successor = .ok h') :
    h' = h.next := by
  unfold Handle.successor at eq
  split at eq <;> cases eq
  rfl

theorem makePositionRegister_spec {register : PositionRegister}
    (h : a.makePositionRegister = .ok (register, b)) :
    a.Extends b ∧ register = a.nextPosition ∧ b.nextPosition.index = register.index + 1 ∧
      b.lines = a.lines ∧ b.nextCapture = a.nextCapture := by
  obtain ⟨next, eq, h⟩ := bind_eq_ok.mp h
  cases h
  have next_eq := successor_eq eq
  subst next_eq
  exact ⟨{ Extends.refl a with positions := Nat.le_succ _ }, rfl, rfl, rfl, rfl⟩

theorem makeCaptureRegister_spec {register : CaptureRegister}
    (h : a.makeCaptureRegister = .ok (register, b)) :
    a.Extends b ∧ register = a.nextCapture ∧ b.nextCapture.index = register.index + 1 ∧
      b.lines = a.lines := by
  obtain ⟨next, eq, h⟩ := bind_eq_ok.mp h
  cases h
  have next_eq := successor_eq eq
  subst next_eq
  exact ⟨{ Extends.refl a with captures := Nat.le_succ _ }, rfl, rfl, rfl⟩

theorem addPredicate_extends (a : Assembler E) (p : E → Bool) : a.Extends (a.addPredicate p).2 :=
  { Extends.refl a with predicates := .push _ _ }

theorem addConsumeFunction_extends (a : Assembler E) (f : ConsumeFunction E) :
    a.Extends (a.addConsumeFunction f).2 :=
  { Extends.refl a with consumeFunctions := .push _ _ }

theorem internElement_extends [DecidableEq E] (a : Assembler E) (e : E) :
    a.Extends (a.internElement e).2 :=
  { Extends.refl a with elements := a.elements.intern_begins e }

theorem internString_extends (a : Assembler E) (text : String) :
    a.Extends (a.internString text).2 :=
  { Extends.refl a with strings := a.strings.intern_begins text }

theorem internString?_extends (a : Assembler E) (text : Option String) :
    a.Extends (a.internString? text).2 := by
  cases text with
  | none => exact .refl a
  | some text => exact a.internString_extends text

theorem push_spec {i : Instruction} {target : Option Token} (h : a.push i target = .ok b) :
    a.Extends b ∧ b.lines[a.size]? = some ⟨i, target⟩ ∧ b.size = a.size + 1 ∧
      b.nextCapture = a.nextCapture := by
  unfold push at h
  split at h
  · cases h
    exact ⟨{ Extends.refl a with lines := .push _ _ }, Array.getElem?_push_size,
      Array.size_push _, rfl⟩
  · cases h

end

end Assembler

end PatternMachine

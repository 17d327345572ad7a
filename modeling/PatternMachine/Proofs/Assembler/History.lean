import PatternMachine.Proofs.Assembler.Reading
import PatternMachine.Proofs.Instruction.Naming

/-! Histories of calls to an assembler. A draft is what the calls since the last reset have emitted and
bound, as they were made: it knows neither words nor fields. Whatever the order of the calls, the
assembler follows the draft. -/
namespace PatternMachine

variable {E : Type}

/-- A call to an assembler. -/
inductive Call (E : Type) where
  | makeToken
  | label (token : Token)
  | resolve (token : Token)
  | emit (st : Statement E)
  | internElement (element : E)
  | internString (text : String)
  | addPredicate (p : E → Bool)
  | addConsumeFunction (f : ConsumeFunction E)
  | makeBoolRegister
  | makePositionRegister
  | makeCaptureRegister
  | assemble
  | reset

/-- Everything but assembling may change the assembler. -/
def Call.changes : Call E → Bool
  | .assemble => false
  | _ => true

/-- An assembler together with the handles that it has returned since its last reset, the latest first. -/
structure Session (E : Type) where
  assembler : Assembler E
  given : List AnyHandle

namespace Session

/-- A session with an assembler that has not been called yet. -/
def fresh [DecidableEq E] (elements : List E) : Session E := ⟨.withElements elements, []⟩

def give {kind : HandleKind} (s : Session E) (result : Handle kind × Assembler E) : Session E :=
  ⟨result.2, ⟨kind, result.1⟩ :: s.given⟩

def perform [DecidableEq E] (s : Session E) : Call E → Except Fault (Session E)
  | .makeToken => .ok (s.give s.assembler.makeToken)
  | .label token => do return { s with assembler := ← s.assembler.label token }
  | .resolve token => do return { s with assembler := ← s.assembler.resolve token }
  | .emit st => do return { s with assembler := ← s.assembler.emit st }
  | .internElement element => .ok (s.give (s.assembler.internElement element))
  | .internString text => .ok (s.give (s.assembler.internString text))
  | .addPredicate p => .ok (s.give (s.assembler.addPredicate p))
  | .addConsumeFunction f => .ok (s.give (s.assembler.addConsumeFunction f))
  | .makeBoolRegister => do return s.give (← s.assembler.makeBoolRegister)
  | .makePositionRegister => do return s.give (← s.assembler.makePositionRegister)
  | .makeCaptureRegister => do return s.give (← s.assembler.makeCaptureRegister)
  | .assemble => do
    let _ ← s.assembler.assemble
    return s
  | .reset => .ok ⟨.empty, []⟩

/-- The session after a history of calls, none of which has failed. -/
def replay [DecidableEq E] (s : Session E) (calls : List (Call E)) : Except Fault (Session E) :=
  calls.foldlM perform s

section

variable [DecidableEq E] {s s' : Session E} {call : Call E} {calls : List (Call E)}

theorem replay_cons :
    s.replay (call :: calls) = .ok s' ↔ ∃ t, s.perform call = .ok t ∧ t.replay calls = .ok s' := by
  rw [replay, List.foldlM_cons]
  exact bind_eq_ok

theorem replay_append (before after : List (Call E)) :
    s.replay (before ++ after) = .ok s' ↔
      ∃ t, s.replay before = .ok t ∧ t.replay after = .ok s' := by
  rw [replay, List.foldlM_append]
  exact bind_eq_ok

theorem perform_assemble (performed : s.perform .assemble = .ok s') : s' = s := by
  obtain ⟨p, -, done⟩ := bind_eq_ok.mp performed
  cases done
  rfl

/-- A history has the same end without the calls that assemble. -/
theorem replay_changes (replayed : s.replay calls = .ok s') :
    s.replay (calls.filter Call.changes) = .ok s' := by
  induction calls generalizing s with
  | nil => exact replayed
  | cons call calls ih =>
    obtain ⟨t, performed, replayed⟩ := replay_cons.mp replayed
    cases changes : call.changes with
    | true =>
      rw [List.filter_cons_of_pos changes]
      exact replay_cons.mpr ⟨t, performed, ih replayed⟩
    | false =>
      rw [List.filter_cons_of_neg (by simp [changes])]
      cases call <;> cases changes
      cases perform_assemble performed
      exact ih replayed

/-- A history has the same end with one more call that assembles, wherever that call can be made. -/
theorem replay_insert {before after : List (Call E)} {t : Session E} {p : Program E}
    (replayed : s.replay (before ++ after) = .ok s') (there : s.replay before = .ok t)
    (assembled : t.assembler.assemble = .ok p) :
    s.replay (before ++ .assemble :: after) = .ok s' := by
  obtain ⟨t', there', rest⟩ := (replay_append before after).mp replayed
  cases there.symm.trans there'
  have performed : t.perform .assemble = .ok t := by rw [perform, assembled]; rfl
  exact (replay_append before _).mpr ⟨t, there, replay_cons.mpr ⟨t, performed, rest⟩⟩

end

end Session

/-! ### Drafts -/

/-- The token that a statement names. -/
def Statement.target? : Statement E → Option Token
  | .branch target | .condBranch _ target | .save target | .saveAddress target
  | .clearThrough target | .call target => some target
  | _ => none

structure Draft (E : Type) where
  statements : List (Statement E)
  address? : Token → Option Address

namespace Draft

def blank : Draft E := ⟨[], fun _ => none⟩

def bind (d : Draft E) (token : Token) (address : Address) : Draft E :=
  { d with address? := fun other => if other = token then some address else d.address? other }

/-- A label binds to the number of statements so far, resolving to one less. -/
def after (d : Draft E) : Call E → Draft E
  | .emit st => { d with statements := d.statements ++ [st] }
  | .label token => d.bind token ⟨d.statements.length⟩
  | .resolve token => d.bind token ⟨d.statements.length - 1⟩
  | .reset => blank
  | _ => d

/-- What a history has emitted and bound since its last reset. -/
def of (calls : List (Call E)) : Draft E := calls.foldl after blank

end Draft

/-! ### Assemblers and drafts -/

/-- A line that waits for the target of a statement, if the statement has one. -/
structure Line.Awaits (line : Line) (st : Statement E) : Prop where
  target : line.target = st.target?
  free : st.target?.isSome → line.instruction.operand.hasPayload = false

structure Assembler.Follows (a : Assembler E) (d : Draft E) : Prop where
  size : a.size = d.statements.length
  address : ∀ token, a.address? token = d.address? token
  bounded : ∀ token address, d.address? token = some address → address.index ≤ d.statements.length
  lines : ∀ (i : Nat) st, d.statements[i]? = some st →
    ∃ line, a.lines[i]? = some line ∧ line.Awaits st
  stands : ∀ (i : Nat) st, d.statements[i]? = some st → ∀ final p, a.Extends final →
    final.assemble = .ok p → st.StandsAt p final.address? i

theorem Instruction.make_free {kind : PayloadKind} {opcode : Opcode} {condition : Option BoolRegister}
    {i : Instruction} {payload : Option (Payload kind)} (none : payload = none)
    (made : Instruction.make opcode payload condition = .ok i) :
    i.operand.hasPayload = false := by
  subst none
  have field := (Instruction.make_carries made).payload
  simpa [Operand.hasPayload] using field

namespace Assembler

variable {a b : Assembler E}

theorem push_eq {i : Instruction} {target : Option Token} (pushed : a.push i target = .ok b) :
    b = { a with lines := a.lines.push ⟨i, target⟩ } := by
  unfold push at pushed
  split at pushed <;> cases pushed
  rfl

/-- A statement adds a line that waits for its target, and binds nothing. -/
theorem emit_line [DecidableEq E] {st : Statement E} (emitted : a.emit st = .ok b) :
    b.tokens = a.tokens ∧ ∃ line, b.lines = a.lines.push line ∧ line.Awaits st := by
  cases st
  case branch target | save target | saveAddress target | clearThrough target | call target |
      condBranch condition target =>
    obtain ⟨i, made, pushed⟩ := bind_eq_ok.mp emitted
    cases push_eq pushed
    exact ⟨rfl, _, rfl, rfl, fun _ => Instruction.make_free rfl made⟩
  case nop comment | abort comment =>
    obtain ⟨i, made, pushed⟩ := bind_eq_ok.mp emitted
    cases push_eq pushed
    cases comment <;> exact ⟨rfl, _, rfl, rfl, nofun⟩
  all_goals
    obtain ⟨i, made, pushed⟩ := bind_eq_ok.mp emitted
    cases push_eq pushed
    exact ⟨rfl, _, rfl, rfl, nofun⟩

theorem bind_address {token : Token} {address : Address} (bound : a.bind token address = .ok b) :
    b.lines = a.lines ∧
      ∀ other, b.address? other = if other = token then some address else a.address? other := by
  unfold bind at bound
  split at bound
  · cases bound
  · cases bound
  next free =>
    cases bound
    refine ⟨rfl, fun other => ?_⟩
    by_cases same : other = token
    · obtain ⟨inside, -⟩ := Array.getElem?_eq_some_iff.mp free
      simp [address?, same, inside]
    · have apart : token.index ≠ other.index := by
        intro eq
        apply same
        cases other
        cases token
        exact congrArg Handle.mk eq.symm
      simp [address?, same, apart]

namespace Follows

variable {d : Draft E}

theorem blank [DecidableEq E] (elements : List E) : (withElements elements).Follows .blank where
  size := rfl
  address _ := rfl
  bounded _ _ known := nomatch known
  lines _ _ known := nomatch known
  stands _ _ known := nomatch known

/-- A call that neither emits nor binds leaves the draft as it is. -/
theorem keep (h : a.Follows d) (grows : a.Extends b) (lines : b.lines = a.lines)
    (address : ∀ token, b.address? token = a.address? token) : b.Follows d where
  size := (congrArg Array.size lines).trans h.size
  address token := (address token).trans (h.address token)
  bounded := h.bounded
  lines := by rw [lines]; exact h.lines
  stands i st known final p grows' := h.stands i st known final p (grows.trans grows')

theorem bind (h : a.Follows d) {token : Token} {address : Address}
    (bound : a.bind token address = .ok b) (le : address.index ≤ d.statements.length) :
    b.Follows (d.bind token address) := by
  obtain ⟨grows, -⟩ := bind_spec bound
  obtain ⟨lines, addresses⟩ := bind_address bound
  refine ⟨(congrArg Array.size lines).trans h.size, fun other => ?_, fun other x known => ?_, ?_, ?_⟩
  · rw [addresses, h.address]
    rfl
  · simp only [Draft.bind] at known
    split at known
    · cases known
      exact le
    · exact h.bounded other x known
  · rw [lines]
    exact h.lines
  · intro i st known final p grows'
    exact h.stands i st known final p (grows.trans grows')

theorem emit [DecidableEq E] (h : a.Follows d) {st : Statement E} (emitted : a.emit st = .ok b) :
    b.Follows { d with statements := d.statements ++ [st] } := by
  obtain ⟨grows, size, -⟩ := emit_extends emitted
  obtain ⟨tokens, line, lines, awaits⟩ := emit_line emitted
  have last : a.lines.size = d.statements.length := h.size
  have reach (i : Nat) (st' : Statement E) (known : (d.statements ++ [st])[i]? = some st') :
      d.statements[i]? = some st' ∨ i = a.size ∧ st' = st := by
    rcases Nat.lt_or_ge i d.statements.length with old | new
    · rw [List.getElem?_append_left old] at known
      exact .inl known
    · rw [List.getElem?_append_right new, List.getElem?_singleton] at known
      split at known <;> cases known
      exact .inr ⟨by rw [h.size]; omega, rfl⟩
  refine ⟨?_, fun token => ?_, fun token x known => ?_, fun i st' known => ?_, fun i st' known => ?_⟩
  · rw [size, h.size, List.length_append, List.length_singleton]
  · rw [Assembler.address?, tokens]
    exact h.address token
  · have := h.bounded token x known
    rw [List.length_append]
    omega
  · rcases reach i st' known with old | ⟨rfl, rfl⟩
    · obtain ⟨line', there, awaits'⟩ := h.lines i st' old
      exact ⟨line', grows.lines i line' there, awaits'⟩
    · refine ⟨line, ?_, awaits⟩
      rw [lines]
      exact Array.getElem?_push_size
  · intro final p grows' assembled
    rcases reach i st' known with old | ⟨rfl, rfl⟩
    · exact h.stands i st' old final p (grows.trans grows') assembled
    · exact emit_stands emitted assembled grows'

end Follows

end Assembler

/-! ### Histories -/

namespace Session

variable [DecidableEq E] {s s' : Session E} {d : Draft E} {call : Call E}

theorem perform_follows (h : s.assembler.Follows d) (performed : s.perform call = .ok s') :
    s'.assembler.Follows (d.after call) := by
  cases call with
  | makeToken =>
    cases performed
    refine h.keep (Assembler.makeToken_extends _) rfl fun token => ?_
    simp only [give, Assembler.makeToken, Assembler.address?, Array.getElem?_push]
    split
    next last => rw [last, Array.getElem?_eq_none (Nat.le_refl _)]; rfl
    · rfl
  | label token =>
    obtain ⟨b, bound, done⟩ := bind_eq_ok.mp performed
    cases done
    have place : s.assembler.here = ⟨d.statements.length⟩ := congrArg Handle.mk h.size
    rw [Assembler.label, place] at bound
    exact h.bind bound (Nat.le_refl _)
  | resolve token =>
    obtain ⟨b, bound, done⟩ := bind_eq_ok.mp performed
    cases done
    unfold Assembler.resolve at bound
    split at bound
    · cases bound
    · have size : s.assembler.lines.size = d.statements.length := h.size
      rw [size] at bound
      exact h.bind bound (Nat.sub_le _ _)
  | emit st =>
    obtain ⟨b, emitted, done⟩ := bind_eq_ok.mp performed
    cases done
    exact h.emit emitted
  | internElement element =>
    cases performed
    exact h.keep (Assembler.internElement_extends _ _) rfl fun _ => rfl
  | internString text =>
    cases performed
    exact h.keep (Assembler.internString_extends _ _) rfl fun _ => rfl
  | addPredicate p =>
    cases performed
    exact h.keep (Assembler.addPredicate_extends _ _) rfl fun _ => rfl
  | addConsumeFunction f =>
    cases performed
    exact h.keep (Assembler.addConsumeFunction_extends _ _) rfl fun _ => rfl
  | makeBoolRegister =>
    obtain ⟨⟨register, b⟩, made, done⟩ := bind_eq_ok.mp performed
    cases done
    obtain ⟨grows, -, lines, -⟩ := Assembler.makeBoolRegister_spec made
    refine h.keep grows lines fun token => ?_
    unfold Assembler.makeBoolRegister at made
    split at made <;> cases made
    rfl
  | makePositionRegister =>
    obtain ⟨⟨register, b⟩, made, done⟩ := bind_eq_ok.mp performed
    cases done
    obtain ⟨grows, -, -, lines, -⟩ := Assembler.makePositionRegister_spec made
    refine h.keep grows lines fun token => ?_
    obtain ⟨next, -, made⟩ := bind_eq_ok.mp made
    cases made
    rfl
  | makeCaptureRegister =>
    obtain ⟨⟨register, b⟩, made, done⟩ := bind_eq_ok.mp performed
    cases done
    obtain ⟨grows, -, -, lines⟩ := Assembler.makeCaptureRegister_spec made
    refine h.keep grows lines fun token => ?_
    obtain ⟨next, -, made⟩ := bind_eq_ok.mp made
    cases made
    rfl
  | assemble =>
    cases perform_assemble performed
    exact h
  | reset =>
    cases performed
    exact .blank []

theorem replay_keeps_following {calls : List (Call E)} (follows : s.assembler.Follows d)
    (replayed : s.replay calls = .ok s') : s'.assembler.Follows (calls.foldl Draft.after d) := by
  induction calls generalizing s d with
  | nil => cases replayed; exact follows
  | cons call calls ih =>
    obtain ⟨t, performed, replayed⟩ := replay_cons.mp replayed
    exact ih (perform_follows follows performed) replayed

/-- After every history the assembler follows the draft of the history. -/
theorem replay_follows {elements : List E} {calls : List (Call E)}
    (replayed : (fresh elements).replay calls = .ok s) : s.assembler.Follows (.of calls) :=
  replay_keeps_following (s := fresh elements) (.blank elements) replayed

end Session

end PatternMachine

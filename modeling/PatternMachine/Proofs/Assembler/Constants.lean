import PatternMachine.Proofs.Assembler.Interning
import PatternMachine.Proofs.Assembler.Registers

/-! Statements and calls feed the same pools, in any order, while other registers come from counters. A
constant that has been named keeps its register, and the register its value, until the assembler is
reset. -/
namespace PatternMachine

variable {E : Type}

/-! ### What is asked for -/

/-- What a call asks of the pools and of the counters. -/
structure Request (E : Type) where
  /-- To be interned. -/
  constant? : Option (Constant E) := none
  /-- To be appended. -/
  predicate? : Option (E → Bool) := none
  consumeFunction? : Option (ConsumeFunction E) := none
  /-- To be counted, and returned under the next number. -/
  handle? : Option HandleKind := none

namespace Request

def element? (q : Request E) : Option E := q.constant?.bind Constant.element?

def string? (q : Request E) : Option String := q.constant?.bind Constant.string?

end Request

def Call.request : Call E → Request E
  | .makeToken => { handle? := some .token }
  | .emit st => { constant? := st.constant? }
  | .internElement e => { constant? := some (.element e) }
  | .internString text => { constant? := some (.string text) }
  | .addPredicate p => { predicate? := some p, handle? := some (.payload .predicate) }
  | .addConsumeFunction f =>
    { consumeFunction? := some f, handle? := some (.payload .consumeFunction) }
  | .makeBoolRegister => { handle? := some .condition }
  | .makePositionRegister => { handle? := some (.payload .position) }
  | .makeCaptureRegister => { handle? := some (.payload .capture) }
  | _ => {}

/-- What has been asked for since the last reset, and the elements that there were to begin with. -/
structure Orders (E : Type) where
  initial : List E
  requests : List (Request E)

theorem filterMap_concat {β : Type} (f : Request E → Option β) (qs : List (Request E)) (q : Request E) :
    (qs ++ [q]).filterMap f = qs.filterMap f ++ (f q).toList := by
  rw [List.filterMap_append]
  cases made : f q <;> simp [made]

namespace Orders

def after (d : Orders E) : Call E → Orders E
  | .reset => ⟨[], []⟩
  | call => { d with requests := d.requests ++ [call.request] }

def of (elements : List E) (calls : List (Call E)) : Orders E := calls.foldl after ⟨elements, []⟩

/-- The elements in the order in which they were named, as often as they were. -/
def elements (d : Orders E) : List E := d.initial ++ d.requests.filterMap Request.element?

def strings (d : Orders E) : List String := d.requests.filterMap Request.string?

def predicates (d : Orders E) : List (E → Bool) := d.requests.filterMap Request.predicate?

def consumeFunctions (d : Orders E) : List (ConsumeFunction E) :=
  d.requests.filterMap Request.consumeFunction?

/-- The number of handles of a kind that were counted. -/
def count (d : Orders E) (kind : HandleKind) : Nat := (d.requests.filterMap Request.handle?).count kind

theorem after_of_ne (d : Orders E) {call : Call E} (goes : call ≠ .reset) :
    d.after call = { d with requests := d.requests ++ [call.request] } := by
  cases call <;> first | rfl | exact absurd rfl goes

end Orders

/-! ### What a call does -/

/-- The index of the next handle of a kind, for the kinds that are numbered consecutively. -/
def Assembler.next (a : Assembler E) : HandleKind → Nat
  | .token => a.tokens.size
  | .condition => a.nextBool.index
  | .payload .predicate => a.predicates.size
  | .payload .consumeFunction => a.consumeFunctions.size
  | .payload .position => a.nextPosition.index
  | .payload .capture => a.nextCapture.index
  | .payload _ => 0

namespace Session

variable {s s' t : Session E} {d : Orders E} {call : Call E} {calls : List (Call E)}
  {c : Constant E} {p : Program E}

/-- The numbers of the handles of a kind that have been returned, in order. -/
def issued (s : Session E) (kind : HandleKind) : List Nat :=
  s.given.reverse.filterMap fun h => if h.1 = kind then some h.2.index else none

/-- The register of the constant that the latest call has interned: it was returned, or it is in the
latest line. -/
def latest? (s : Session E) : Call E → Option AnyHandle
  | .internElement _ | .internString _ => s.given.head?
  | .emit _ => do
    let line ← s.assembler.lines.back?
    let op ← line.instruction.decode.toOption
    op.constant?
  | _ => none

@[simp]
theorem give_assembler {kind : HandleKind} (s : Session E) (result : Handle kind × Assembler E) :
    (s.give result).assembler = result.2 := rfl

theorem issued_give {kind : HandleKind} (s : Session E) (r : Handle kind) (a : Assembler E)
    (other : HandleKind) :
    (s.give (r, a)).issued other = s.issued other ++ if kind = other then [r.index] else [] := by
  unfold issued give
  rw [List.reverse_cons, List.filterMap_append]
  split <;> simp [*]

variable [DecidableEq E]

/-- A request is granted, and nothing else happens to the pools, the functions and the counters. -/
structure Grants (s : Session E) (q : Request E) (s' : Session E) : Prop where
  elements : s'.assembler.elements =
    q.element?.elim s.assembler.elements fun e => (s.assembler.elements.intern e).2
  strings : s'.assembler.strings =
    q.string?.elim s.assembler.strings fun text => (s.assembler.strings.intern text).2
  predicates : s'.assembler.predicates.toList = s.assembler.predicates.toList ++ q.predicate?.toList
  consumeFunctions : s'.assembler.consumeFunctions.toList =
    s.assembler.consumeFunctions.toList ++ q.consumeFunction?.toList
  next : ∀ kind, s'.assembler.next kind =
    s.assembler.next kind + if q.handle? = some kind then 1 else 0
  issued : ∀ kind, kind ≠ .payload .element → kind ≠ .payload .string →
    s'.issued kind = s.issued kind ++ if q.handle? = some kind then [s.assembler.next kind] else []

theorem bind_grants {a : Assembler E} {token : Token} {address : Address}
    (bound : s.assembler.bind token address = .ok a) : s.Grants {} { s with assembler := a } := by
  unfold Assembler.bind at bound
  split at bound <;> cases bound
  constructor <;> simp [Request.element?, Request.string?, Assembler.next, issued]

theorem intern_grants (s : Session E) (c : Constant E) :
    s.Grants { constant? := some c } { s with assembler := (s.assembler.intern c).2 } := by
  cases c <;> constructor <;>
    simp [Request.element?, Request.string?, Constant.element?, Constant.string?, Assembler.intern,
      Assembler.internElement, Assembler.internString, Assembler.next, issued]

/-- Registers of constants are not counted. -/
theorem Grants.give_constant {q : Request E} {kind : HandleKind} {a : Assembler E}
    (h : s.Grants q { s with assembler := a }) (r : Handle kind)
    (interned : kind = .payload .element ∨ kind = .payload .string) : s.Grants q (s.give (r, a)) := by
  refine { h with issued := fun other apart apart' => ?_ }
  have distinct : kind ≠ other := by
    rcases interned with rfl | rfl
    · exact apart.symm
    · exact apart'.symm
  rw [issued_give, if_neg distinct, List.append_nil]
  exact h.issued other apart apart'

theorem emit_grants {a : Assembler E} {st : Statement E} (emitted : s.assembler.emit st = .ok a) :
    s.Grants (Call.emit st).request { s with assembler := a } := by
  obtain ⟨line, rfl, -⟩ := Assembler.emit_interns emitted
  cases named : st.constant? with
  | none =>
    constructor <;>
      simp [Call.request, named, Request.element?, Request.string?, Assembler.next, issued]
  | some c =>
    have h := s.intern_grants c
    rw [Call.request, named]
    exact ⟨h.elements, h.strings, h.predicates, h.consumeFunctions, h.next, h.issued⟩

/-- A handle with the next number of its kind is returned. -/
theorem count_grants {q : Request E} {kind : HandleKind} {r : Handle kind} {a : Assembler E}
    (names : q.constant? = none) (counts : q.handle? = some kind)
    (elements : a.elements = s.assembler.elements) (strings : a.strings = s.assembler.strings)
    (predicates : a.predicates.toList = s.assembler.predicates.toList ++ q.predicate?.toList)
    (consumeFunctions : a.consumeFunctions.toList =
      s.assembler.consumeFunctions.toList ++ q.consumeFunction?.toList)
    (first : r.index = s.assembler.next kind)
    (next : ∀ other, a.next other = s.assembler.next other + if kind = other then 1 else 0) :
    s.Grants q (s.give (r, a)) where
  elements := by simpa [Request.element?, names] using elements
  strings := by simpa [Request.string?, names] using strings
  predicates := predicates
  consumeFunctions := consumeFunctions
  next other := by simpa [counts] using next other
  issued other _ _ := by
    rw [issued_give, counts, first]
    by_cases same : kind = other
    · subst same
      rw [if_pos rfl, if_pos rfl]
    · rw [if_neg same, if_neg fun eq => same (Option.some.inj eq)]

/-- Every call but a reset is granted. -/
theorem perform_grants (goes : call ≠ .reset) (performed : s.perform call = .ok s') :
    s.Grants call.request s' := by
  have nothing {α : Type} (xs : List α) : xs = xs ++ [] := (List.append_nil xs).symm
  cases call with
  | makeToken =>
    cases performed
    refine count_grants rfl rfl rfl rfl (nothing _) (nothing _) rfl ?_
    rintro (⟨⟨⟩⟩ | _ | _) <;> simp [Assembler.next]
  | label token =>
    obtain ⟨a, bound, done⟩ := bind_eq_ok.mp performed
    cases done
    exact bind_grants bound
  | resolve token =>
    obtain ⟨a, bound, done⟩ := bind_eq_ok.mp performed
    cases done
    unfold Assembler.resolve at bound
    split at bound
    · cases bound
    · exact bind_grants bound
  | emit st =>
    obtain ⟨a, emitted, done⟩ := bind_eq_ok.mp performed
    cases done
    exact emit_grants emitted
  | internElement e =>
    cases performed
    exact (s.intern_grants (.element e)).give_constant _ (.inl rfl)
  | internString text =>
    cases performed
    exact (s.intern_grants (.string text)).give_constant _ (.inr rfl)
  | addPredicate p =>
    cases performed
    refine count_grants rfl rfl rfl rfl Array.toList_push (nothing _) rfl ?_
    rintro (⟨⟨⟩⟩ | _ | _) <;> simp [Assembler.next]
  | addConsumeFunction f =>
    cases performed
    refine count_grants rfl rfl rfl rfl (nothing _) Array.toList_push rfl ?_
    rintro (⟨⟨⟩⟩ | _ | _) <;> simp [Assembler.next]
  | makeBoolRegister =>
    obtain ⟨⟨register, b⟩, made, done⟩ := bind_eq_ok.mp performed
    cases done
    unfold Assembler.makeBoolRegister at made
    split at made <;> cases made
    refine count_grants rfl rfl rfl rfl (nothing _) (nothing _) rfl ?_
    rintro (⟨⟨⟩⟩ | _ | _) <;> simp [Assembler.next, Handle.next]
  | makePositionRegister =>
    obtain ⟨⟨register, b⟩, made, done⟩ := bind_eq_ok.mp performed
    cases done
    obtain ⟨next, eq, made⟩ := bind_eq_ok.mp made
    cases made
    cases Assembler.successor_eq eq
    refine count_grants rfl rfl rfl rfl (nothing _) (nothing _) rfl ?_
    rintro (⟨⟨⟩⟩ | _ | _) <;> simp [Assembler.next, Handle.next]
  | makeCaptureRegister =>
    obtain ⟨⟨register, b⟩, made, done⟩ := bind_eq_ok.mp performed
    cases done
    obtain ⟨next, eq, made⟩ := bind_eq_ok.mp made
    cases made
    cases Assembler.successor_eq eq
    refine count_grants rfl rfl rfl rfl (nothing _) (nothing _) rfl ?_
    rintro (⟨⟨⟩⟩ | _ | _) <;> simp [Assembler.next, Handle.next]
  | assemble =>
    cases perform_assemble performed
    constructor <;> simp [Call.request, Request.element?, Request.string?]
  | reset => exact absurd rfl goes

/-- The pools list what has been named, the functions stand in the order in which they were added, and
handles are numbered consecutively. -/
structure Fills (s : Session E) (d : Orders E) : Prop where
  elements : s.assembler.elements.Lists d.elements
  strings : s.assembler.strings.Lists d.strings
  predicates : s.assembler.predicates.toList = d.predicates
  consumeFunctions : s.assembler.consumeFunctions.toList = d.consumeFunctions
  next : ∀ kind, s.assembler.next kind = d.count kind
  issued : ∀ kind, kind ≠ .payload .element → kind ≠ .payload .string →
    s.issued kind = List.range (d.count kind)

theorem Fills.fresh (elements : List E) : (Session.fresh elements).Fills ⟨elements, []⟩ where
  elements := by
    rw [Orders.elements, List.filterMap_nil, List.append_nil]
    exact .ofList elements
  strings := .empty
  predicates := rfl
  consumeFunctions := rfl
  next := by rintro (⟨⟨⟩⟩ | _ | _) <;> rfl
  issued _ _ _ := rfl

theorem Fills.grant {q : Request E} (h : s.Fills d) (granted : s.Grants q s') :
    s'.Fills { d with requests := d.requests ++ [q] } := by
  have count (kind : HandleKind) : Orders.count { d with requests := d.requests ++ [q] } kind =
      d.count kind + if q.handle? = some kind then 1 else 0 := by
    rw [Orders.count, filterMap_concat, List.count_append]
    cases q.handle? with
    | none => simp [Orders.count]
    | some made => simp [Orders.count, List.count_singleton]
  constructor
  · rw [granted.elements, Orders.elements, filterMap_concat, ← List.append_assoc]
    exact h.elements.intern? q.element?
  · rw [granted.strings, Orders.strings, filterMap_concat]
    exact h.strings.intern? q.string?
  · rw [granted.predicates, h.predicates, Orders.predicates, Orders.predicates, filterMap_concat]
  · rw [granted.consumeFunctions, h.consumeFunctions, Orders.consumeFunctions,
      Orders.consumeFunctions, filterMap_concat]
  · intro kind
    rw [granted.next, h.next, count]
  · intro kind apart apart'
    rw [granted.issued kind apart apart', h.issued kind apart apart', h.next, count]
    split
    · exact List.range_succ.symm
    · exact List.append_nil _

theorem Fills.perform (h : s.Fills d) (performed : s.perform call = .ok s') :
    s'.Fills (d.after call) := by
  by_cases goes : call = .reset
  · subst goes
    cases performed
    exact .fresh []
  · rw [d.after_of_ne goes]
    exact h.grant (perform_grants goes performed)

theorem Fills.replay (h : s.Fills d) (replayed : s.replay calls = .ok s') :
    s'.Fills (calls.foldl Orders.after d) := by
  induction calls generalizing s d with
  | nil => cases replayed; exact h
  | cons call calls ih =>
    obtain ⟨t, performed, replayed⟩ := replay_cons.mp replayed
    exact ih (h.perform performed) replayed

/-! ### Registers along a history -/

/-- Without a reset everything stays. -/
theorem replay_extends (kept : .reset ∉ calls) (replayed : s.replay calls = .ok s') :
    s.assembler.Extends s'.assembler := by
  induction calls generalizing s with
  | nil => cases replayed; exact .refl _
  | cons call calls ih =>
    obtain ⟨t, performed, replayed⟩ := replay_cons.mp replayed
    rw [List.mem_cons, not_or] at kept
    obtain ⟨goes, kept⟩ := kept
    rcases perform_grows performed with grows | ⟨rfl, -⟩
    · exact grows.assembler.trans (ih kept replayed)
    · exact absurd rfl goes

/-- The register that a call of a history got for its constant. -/
def registerAt? (start : Session E) (calls : List (Call E)) (i : Nat) : Option AnyHandle := do
  let call ← calls[i]?
  let s ← (start.replay (calls.take (i + 1))).toOption
  s.latest? call

/-- A call that names a constant gets a register for it, and the register stands for it. In a line it is
what will be in the program. -/
theorem perform_latest? (performed : s.perform call = .ok s') (names : call.request.constant? = some c) :
    ∃ r, s'.latest? call = some r ∧ s'.assembler.constant? r = some c ∧
      ∀ st, call = .emit st → ∀ final p, s'.assembler.Extends final → final.assemble = .ok p →
        (p.operation? s.assembler.size).bind Operation.constant? = some r := by
  cases call with
  | emit st =>
    obtain ⟨a, emitted, done⟩ := bind_eq_ok.mp performed
    cases done
    obtain ⟨line, rfl, reads⟩ := Assembler.emit_interns emitted
    have named : st.constant? = some c := names
    obtain ⟨plain, op, decoded, refers⟩ := reads c named
    refine ⟨(s.assembler.intern c).1, ?_, ?_, fun _ _ final p grows assembled => ?_⟩
    · simp [latest?, decoded, Except.toOption, refers]
    · rw [named]
      exact s.assembler.intern_constant? c
    · have last := grows.lines _ _ Array.getElem?_push_size
      rw [Assembler.size, Assembler.assemble_plain assembled last plain decoded]
      exact refers
  | internElement e =>
    cases performed
    cases names
    refine ⟨_, rfl, s.assembler.intern_constant? (.element e), ?_⟩
    intro st emits
    cases emits
  | internString text =>
    cases performed
    cases names
    refine ⟨_, rfl, s.assembler.intern_constant? (.string text), ?_⟩
    intro st emits
    cases emits
  | _ => cases names

/-- What is known of the register that a call has got, once no reset has followed. -/
theorem registerAt?_spec {start : Session E} {i : Nat} (replayed : start.replay calls = .ok t)
    (made : calls[i]? = some call) (names : call.request.constant? = some c)
    (kept : .reset ∉ calls.drop i) :
    ∃ s r, start.replay (calls.take i) = .ok s ∧ start.registerAt? calls i = some r ∧
      t.assembler.constant? r = some c ∧
      ∀ st, call = .emit st → ∀ p, t.assembler.assemble = .ok p →
        (p.operation? s.assembler.size).bind Operation.constant? = some r := by
  -- The history is what came before the call, the call, and what came after, which takes nothing away.
  have inside : i < calls.length := (List.getElem?_eq_some_iff.mp made).1
  have first : calls.take (i + 1) = calls.take i ++ [call] := by
    rw [List.take_add_one, made]
    rfl
  rw [← List.take_append_drop (i + 1) calls] at replayed
  obtain ⟨s', before, after⟩ := (replay_append _ _).mp replayed
  have reached := before
  rw [first] at before
  obtain ⟨s, before, once⟩ := (replay_append _ _).mp before
  obtain ⟨s'', performed, done⟩ := replay_cons.mp once
  cases done
  have grows : s'.assembler.Extends t.assembler := by
    refine replay_extends (fun member => kept ?_) after
    rw [List.drop_eq_getElem_cons inside]
    exact List.mem_cons_of_mem _ member
  obtain ⟨r, got, stands, reads⟩ := perform_latest? performed names
  refine ⟨s, r, before, ?_, grows.constant? stands, fun st emits p => reads st emits _ p grows⟩
  simp [registerAt?, made, reached, got, Except.toOption]

end Session

/-! ### The result -/

/-- What has been asked for is in the program, and all of it is counted. -/
structure Program.Holds [DecidableEq E] (p : Program E) (d : Orders E) : Prop where
  elements : p.elements.toList = d.elements.eraseDups
  strings : p.strings.toList = d.strings.eraseDups
  distinct : p.elements.toList.Nodup ∧ p.strings.toList.Nodup
  predicates : p.predicates.toList = d.predicates
  consumeFunctions : p.consumeFunctions.toList = d.consumeFunctions
  registers : p.registers = {
    elements := p.elements.size
    strings := p.strings.size
    bools := d.count .condition
    predicates := d.count (.payload .predicate)
    consumeFunctions := d.count (.payload .consumeFunction)
    positions := d.count (.payload .position)
    captures := d.count (.payload .capture) }
  sizes : p.predicates.size = p.registers.predicates ∧
    p.consumeFunctions.size = p.registers.consumeFunctions

theorem Session.Fills.holds [DecidableEq E] {s : Session E} {d : Orders E} {p : Program E}
    (h : s.Fills d) (assembled : s.assembler.assemble = .ok p) : p.Holds d := by
  obtain ⟨code, -, done⟩ := bind_eq_ok.mp assembled
  cases done
  have next := h.next
  refine ⟨h.elements.items, h.strings.items, ⟨h.elements.distinct, h.strings.distinct⟩, h.predicates,
    h.consumeFunctions, ?_, rfl, rfl⟩
  simp only [← next]
  rfl

/-- Whatever the order of the calls, and whatever elements an assembler had to begin with: every constant
that is named gets a register, which stands for it in every program that is assembled before the next reset,
and two constants get the same register if and only if they are the same. What an instruction is made with
is what it has in the program. All other handles are numbered consecutively. In a program each pool lists its
values in the order in which they were first named, and the counts are those of the pools and of what has been
returned. -/
theorem pools_stay_consistent [DecidableEq E] {elements : List E} {calls : List (Call E)}
    {session : Session E} (replayed : (Session.fresh elements).replay calls = .ok session) :
    let start := Session.fresh elements
    let orders := Orders.of elements calls
    (∀ (i : Nat) call c, calls[i]? = some call → call.request.constant? = some c →
      .reset ∉ calls.drop i → ∃ s r, start.replay (calls.take i) = .ok s ∧
        start.registerAt? calls i = some r ∧ ∀ p, session.assembler.assemble = .ok p →
          p.constant? r = some c ∧ ∀ st, call = .emit st →
            (p.operation? s.assembler.size).bind Operation.constant? = some r) ∧
    (∀ (i j : Nat) call call' c c', calls[i]? = some call → calls[j]? = some call' →
      call.request.constant? = some c → call'.request.constant? = some c' →
      .reset ∉ calls.drop i → .reset ∉ calls.drop j →
        (start.registerAt? calls i = start.registerAt? calls j ↔ c = c')) ∧
    (∀ kind, kind ≠ .payload .element → kind ≠ .payload .string →
      session.issued kind = List.range (orders.count kind)) ∧
    ∀ p, session.assembler.assemble = .ok p → p.Holds orders := by
  have fills : session.Fills (.of elements calls) := (Session.Fills.fresh elements).replay replayed
  refine ⟨?_, ?_, fills.issued, fun p => fills.holds⟩
  · intro i call c made names kept
    obtain ⟨s, r, before, got, stands, reads⟩ := Session.registerAt?_spec replayed made names kept
    refine ⟨s, r, before, got, fun p assembled => ⟨?_, fun st emits => reads st emits p assembled⟩⟩
    rw [Assembler.assemble_constant? assembled]
    exact stands
  · -- Both registers are looked up in the pools as they are in the end.
    intro i j call call' c c' made made' names names' kept kept'
    obtain ⟨-, r, -, got, stands, -⟩ := Session.registerAt?_spec replayed made names kept
    obtain ⟨-, r', -, got', stands', -⟩ := Session.registerAt?_spec replayed made' names' kept'
    rw [got, got', Option.some_inj]
    exact Assembler.constant?_unique fills.elements fills.strings stands stands'

/-- An assembler that begins with a repeated element. Elements and strings are named by calls and by
statements, before and after others are. -/
theorem pools_stay_consistent_repeated :
    ∃ (calls : List (Call Nat)) (session : Session Nat) (p : Program Nat),
      (Session.fresh [7, 8, 7]).replay calls = .ok session ∧ session.assembler.assemble = .ok p ∧
      p.elements.toList = [7, 8, 9] ∧ p.strings.toList = ["foo", "bar"] ∧
      p.registers = ⟨3, 2, 2, 2, 1, 0, 1⟩ ∧ session.issued (.payload .predicate) = [0, 1] ∧
      (Session.fresh [7, 8, 7]).registerAt? calls 1 = (Session.fresh [7, 8, 7]).registerAt? calls 7 ∧
      (Session.fresh [7, 8, 7]).registerAt? calls 0 ≠ (Session.fresh [7, 8, 7]).registerAt? calls 1 ∧
      ∃ r, (Session.fresh [7, 8, 7]).registerAt? calls 7 = some r ∧
        p.constant? r = some (.element 9) := by
  let calls : List (Call Nat) :=
    [.internElement 8, .internElement 9, .internString "foo", .addPredicate (· < 3),
      .emit (.nop (some "bar")), .makeBoolRegister, .emit (.print "foo"), .emit (.matchElement 9),
      .emit (.assertion 7 ⟨0⟩), .makeBoolRegister, .addPredicate (· < 3), .makeCaptureRegister,
      .addConsumeFunction fun _ _ => none]
  have ends : ((Session.fresh [7, 8, 7]).replay calls).toOption.any fun session =>
      session.assembler.assemble.toOption.isSome := by decide +kernel
  cases replayed : (Session.fresh [7, 8, 7]).replay calls with
  | error f => rw [replayed] at ends; cases ends
  | ok session =>
    rw [replayed] at ends
    simp only [Except.toOption, Option.any_some] at ends
    cases assembled : session.assembler.assemble with
    | error f => rw [assembled] at ends; cases ends
    | ok p =>
      obtain ⟨named, same, issued, holds⟩ := pools_stay_consistent replayed
      have kept (i : Nat) : .reset ∉ calls.drop i := by
        intro member
        have old := List.mem_of_mem_drop member
        simp [calls] at old
      have holds := holds p assembled
      have elements : p.elements.toList = [7, 8, 9] := holds.elements.trans (by decide +kernel)
      have strings : p.strings.toList = ["foo", "bar"] := holds.strings.trans (by decide +kernel)
      obtain ⟨s, r, -, got, stands⟩ := named 7 _ _ rfl rfl (kept 7)
      refine ⟨calls, session, p, replayed, assembled, elements, strings, ?_, ?_, ?_, ?_, r, got,
        (stands p assembled).1⟩
      · rw [holds.registers]
        simp only [← Array.length_toList, elements, strings]
        decide +kernel
      · exact (issued (.payload .predicate) (by decide) (by decide)).trans (by decide +kernel)
      · exact (same 1 7 _ _ _ _ rfl rfl rfl rfl (kept 1) (kept 7)).mpr rfl
      · intro eq
        cases (same 0 1 _ _ _ _ rfl rfl rfl rfl (kept 0) (kept 1)).mp eq

end PatternMachine

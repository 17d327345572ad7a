import PatternMachine.Proofs.Assembler.Linking
import PatternMachine.Proofs.Machine.Decodable

/-! Registers that an assembler has returned stay among those that it counts, also when more are made
later. So a program can be decoded if all the registers it names came from its assembler. -/
namespace PatternMachine

variable {E : Type}

/-- The registers that a statement is given. Elements and strings stand for themselves. -/
def Statement.registers : Statement E → List AnyHandle
  | .condBranch condition _ => [⟨_, condition⟩]
  | .consumeBy function => [⟨_, function⟩]
  | .matchPredicate predicate => [⟨_, predicate⟩]
  | .assertion _ condition => [⟨_, condition⟩]
  | .movePosition register => [⟨_, register⟩]
  | .comparePosition register condition => [⟨_, register⟩, ⟨_, condition⟩]
  | .beginCapture register | .endCapture register | .backreference register => [⟨_, register⟩]
  | _ => []

def Call.registers : Call E → List AnyHandle
  | .emit st => st.registers
  | _ => []

/-- Every call of the history is given such registers only as have been returned since the last
reset. -/
def Session.honest [DecidableEq E] (s : Session E) : List (Call E) → Bool
  | [] => true
  | call :: calls =>
    decide (∀ h ∈ call.registers, h ∈ s.given) &&
      match s.perform call with
      | .ok s => s.honest calls
      | .error _ => true

/-- The registers that an operation names beyond those of its statement are constants. -/
theorem Statement.Means.registers {p : Program E} {address? : Token → Option Address}
    {st : Statement E} {op : Operation} (means : st.Means p address? op) :
    ∀ h ∈ op.registers, h ∈ st.registers ∨
      (∃ r : ElementRegister, h = ⟨_, r⟩ ∧ r.index < p.elements.size) ∨
      ∃ r : StringRegister, h = ⟨_, r⟩ ∧ r.index < p.strings.size := by
  have comment {text : Option String} {r : Option StringRegister}
      (same : r.map (fun r => p.strings[r.index]?) = text.map some) :
      ∀ h ∈ r.toList.map (fun r => (⟨_, r⟩ : AnyHandle)),
        ∃ r : StringRegister, h = ⟨_, r⟩ ∧ r.index < p.strings.size := by
    cases r with
    | none => exact nofun
    | some r =>
      cases text with
      | none => cases same
      | some text =>
        intro h member
        cases List.mem_singleton.mp member
        have known : p.strings[r.index]? = some text := Option.some.inj same
        exact ⟨r, rfl, (Array.getElem?_eq_some_iff.mp known).1⟩
  cases st
  case nop text | abort text =>
    obtain ⟨r, rfl, same⟩ := means
    exact fun h member => .inr (.inr (comment same h member))
  case print text =>
    obtain ⟨r, rfl, known⟩ := means
    intro h member
    cases List.mem_singleton.mp member
    exact .inr (.inr ⟨r, rfl, (Array.getElem?_eq_some_iff.mp known).1⟩)
  case matchElement element =>
    obtain ⟨r, rfl, known⟩ := means
    intro h member
    cases List.mem_singleton.mp member
    exact .inr (.inl ⟨r, rfl, (Array.getElem?_eq_some_iff.mp known).1⟩)
  case assertion element condition =>
    obtain ⟨r, rfl, known⟩ := means
    intro h member
    rcases List.mem_cons.mp member with rfl | member
    · exact .inr (.inl ⟨r, rfl, (Array.getElem?_eq_some_iff.mp known).1⟩)
    · exact .inl member
  case branch target | save target | saveAddress target | clearThrough target | call target |
      condBranch condition target =>
    obtain ⟨a, rfl, -⟩ := means
    exact fun h member => .inl member
  all_goals
    cases means
    exact fun h member => .inl member

theorem Statement.Means.valid {p : Program E} {address? : Token → Option Address}
    {st : Statement E} {op : Operation} (means : st.Means p address? op) : op ≠ .invalid := by
  rintro rfl
  cases st
  case clear | restore | ret | accept | fail | consume | consumeBy | matchPredicate | movePosition |
      comparePosition | beginCapture | endCapture | backreference => cases means
  all_goals
    obtain ⟨_, eq, -⟩ := means
    cases eq

namespace Assembler

variable {a b final : Assembler E}

/-- The registers that a program of the assembler would have. -/
def counts (a : Assembler E) : RegisterCounts where
  elements := a.elements.items.size
  strings := a.strings.items.size
  bools := a.nextBool.index
  predicates := a.predicates.size
  consumeFunctions := a.consumeFunctions.size
  positions := a.nextPosition.index
  captures := a.nextCapture.index

/-- What is counted stays so. -/
theorem Extends.has (grows : a.Extends b) {h : AnyHandle} (has : a.counts.Has h) :
    b.counts.Has h := by
  obtain ⟨kind, r⟩ := h
  cases kind with
  | payload kind =>
    cases kind with
    | element => exact Nat.lt_of_lt_of_le has grows.elements.size_le
    | string => exact Nat.lt_of_lt_of_le has grows.strings.size_le
    | predicate => exact Nat.lt_of_lt_of_le has grows.predicates.size_le
    | consumeFunction => exact Nat.lt_of_lt_of_le has grows.consumeFunctions.size_le
    | position => exact Nat.lt_of_lt_of_le has grows.positions
    | capture => exact Nat.lt_of_lt_of_le has grows.captures
    | address | distance => trivial
  | condition => exact Nat.lt_of_lt_of_le has grows.bools
  | token => trivial

theorem Follows.decodable {d : Draft E} {p : Program E} (h : a.Follows d)
    (named : ∀ st ∈ d.statements, ∀ r ∈ st.registers, a.counts.Has r)
    (assembled : a.assemble = .ok p) : p.Decodable := by
  obtain ⟨elements, strings, predicates, consumeFunctions, -⟩ := assemble_spec assembled
  have counts : p.registers = a.counts := by
    obtain ⟨code, -, done⟩ := bind_eq_ok.mp assembled
    cases done
    rfl
  refine ⟨?_, ?_, ?_, ?_, fun i instruction known => ?_⟩
  · rw [counts, elements]; rfl
  · rw [counts, strings]; rfl
  · rw [counts, predicates]; rfl
  · rw [counts, consumeFunctions]; rfl
  · have inside : i < d.statements.length := by
      obtain ⟨inside, -⟩ := Array.getElem?_eq_some_iff.mp known
      rw [assemble_size assembled, h.size] at inside
      exact inside
    obtain ⟨op, place, means⟩ :=
      h.stands i _ (List.getElem?_eq_getElem inside) a p (.refl a) assembled
    have decoded : instruction.decode = .ok op := by
      rw [Program.operation?, known] at place
      exact eq_ok place
    refine ⟨op, decoded, means.valid, fun r member => ?_⟩
    rw [counts]
    rcases means.registers r member with given | ⟨e, rfl, bound⟩ | ⟨text, rfl, bound⟩
    · exact named _ (List.getElem_mem inside) r given
    · rw [elements] at bound
      exact bound
    · rw [strings] at bound
      exact bound

end Assembler

/-! ### Histories -/

namespace Session

variable [DecidableEq E] {s s' : Session E} {d : Draft E} {call : Call E} {calls : List (Call E)}

/-- The assembler counts all the registers that it has returned and all that have been named. -/
structure Backed (s : Session E) (d : Draft E) : Prop where
  follows : s.assembler.Follows d
  given : ∀ h ∈ s.given, s.assembler.counts.Has h
  named : ∀ st ∈ d.statements, ∀ h ∈ st.registers, s.assembler.counts.Has h

/-- Nothing is lost, and what is new among the handles is counted. -/
structure Grows (s s' : Session E) : Prop where
  assembler : s.assembler.Extends s'.assembler
  given : ∀ h ∈ s'.given, h ∈ s.given ∨ s'.assembler.counts.Has h

omit [DecidableEq E] in
theorem Grows.quiet {b : Assembler E} (grows : s.assembler.Extends b) :
    s.Grows { s with assembler := b } := ⟨grows, fun _ => .inl⟩

omit [DecidableEq E] in
theorem Grows.give {kind : HandleKind} {b : Assembler E} {r : Handle kind}
    (grows : s.assembler.Extends b) (has : b.counts.Has ⟨kind, r⟩) : s.Grows (s.give (r, b)) := by
  refine ⟨grows, fun h member => ?_⟩
  rcases List.mem_cons.mp member with rfl | member
  · exact .inr has
  · exact .inl member

theorem perform_grows (performed : s.perform call = .ok s') :
    s.Grows s' ∨ call = .reset ∧ s' = ⟨.empty, []⟩ := by
  cases call with
  | makeToken =>
    cases performed
    exact .inl (.give (Assembler.makeToken_extends _) trivial)
  | label token =>
    obtain ⟨b, bound, done⟩ := bind_eq_ok.mp performed
    cases done
    exact .inl (.quiet (Assembler.bind_spec bound).1)
  | resolve token =>
    obtain ⟨b, bound, done⟩ := bind_eq_ok.mp performed
    cases done
    unfold Assembler.resolve at bound
    split at bound
    · cases bound
    · exact .inl (.quiet (Assembler.bind_spec bound).1)
  | emit st =>
    obtain ⟨b, emitted, done⟩ := bind_eq_ok.mp performed
    cases done
    exact .inl (.quiet (Assembler.emit_extends emitted).1)
  | internElement element =>
    cases performed
    have known := Array.getElem?_eq_some_iff.mp (s.assembler.elements.intern_getElem? element)
    exact .inl (.give (Assembler.internElement_extends _ _) known.1)
  | internString text =>
    cases performed
    have known := Array.getElem?_eq_some_iff.mp (s.assembler.strings.intern_getElem? text)
    exact .inl (.give (Assembler.internString_extends _ _) known.1)
  | addPredicate p =>
    cases performed
    refine .inl (.give (Assembler.addPredicate_extends _ _) ?_)
    exact Nat.lt_of_lt_of_eq (Nat.lt_succ_self _) (Array.size_push _).symm
  | addConsumeFunction f =>
    cases performed
    refine .inl (.give (Assembler.addConsumeFunction_extends _ _) ?_)
    exact Nat.lt_of_lt_of_eq (Nat.lt_succ_self _) (Array.size_push _).symm
  | makeBoolRegister =>
    obtain ⟨⟨register, b⟩, made, done⟩ := bind_eq_ok.mp performed
    cases done
    obtain ⟨grows, below, -⟩ := Assembler.makeBoolRegister_spec made
    exact .inl (.give grows below)
  | makePositionRegister =>
    obtain ⟨⟨register, b⟩, made, done⟩ := bind_eq_ok.mp performed
    cases done
    obtain ⟨grows, -, next, -⟩ := Assembler.makePositionRegister_spec made
    exact .inl (.give grows (Nat.lt_of_lt_of_eq (Nat.lt_succ_self _) next.symm))
  | makeCaptureRegister =>
    obtain ⟨⟨register, b⟩, made, done⟩ := bind_eq_ok.mp performed
    cases done
    obtain ⟨grows, -, next, -⟩ := Assembler.makeCaptureRegister_spec made
    exact .inl (.give grows (Nat.lt_of_lt_of_eq (Nat.lt_succ_self _) next.symm))
  | assemble =>
    cases perform_assemble performed
    exact .inl (.quiet (.refl _))
  | reset =>
    cases performed
    exact .inr ⟨rfl, rfl⟩

theorem Backed.perform (h : s.Backed d) (honest : ∀ r ∈ call.registers, r ∈ s.given)
    (performed : s.perform call = .ok s') : s'.Backed (d.after call) := by
  have follows := perform_follows h.follows performed
  rcases perform_grows performed with grows | ⟨rfl, rfl⟩
  · refine ⟨follows, fun r member => ?_, fun st member r named => ?_⟩
    · rcases grows.given r member with old | new
      · exact grows.assembler.has (h.given r old)
      · exact new
    · -- A statement is an old one, or the one that has just been emitted.
      have origin : st ∈ d.statements ∨ call = .emit st ∨ call = .reset := by
        cases call with
        | emit st' =>
          rcases List.mem_append.mp member with old | new
          · exact .inl old
          · cases List.mem_singleton.mp new
            exact .inr (.inl rfl)
        | reset => exact .inr (.inr rfl)
        | _ => exact .inl member
      rcases origin with old | rfl | rfl
      · exact grows.assembler.has (h.named st old r named)
      · exact grows.assembler.has (h.given r (honest r named))
      · cases member
  · exact ⟨follows, nofun, nofun⟩

theorem Backed.replay (h : s.Backed d) (honest : s.honest calls = true)
    (replayed : s.replay calls = .ok s') : s'.Backed (calls.foldl Draft.after d) := by
  induction calls generalizing s d with
  | nil => cases replayed; exact h
  | cons call calls ih =>
    obtain ⟨t, performed, replayed⟩ := replay_cons.mp replayed
    obtain ⟨passes, later⟩ := Bool.and_eq_true_iff.mp honest
    rw [performed] at later
    exact ih (h.perform (of_decide_eq_true passes) performed) later replayed

end Session

/-! ### The result -/

/-- After every history of calls that has not failed, with registers of the assembler itself, the assembled
program has a listing, and every word of it is a valid operation with registers that are there. So are the
registers that backtracking puts back, wherever a search gets to, and a cycle ends in a fault only at the end
of the program, for lack of a save point, at a group that is not open, or because of a consume function that
leaves its range. -/
theorem assembled_is_decodable [DecidableEq E] [Spelled E] {elements : List E}
    {calls : List (Call E)} {session : Session E} {p : Program E}
    (replayed : (Session.fresh elements).replay calls = .ok session)
    (honest : (Session.fresh elements).honest calls = true)
    (assembled : session.assembler.assemble = .ok p) :
    (∃ text, p.listing = .ok text) ∧ p.Decodable ∧
    ∀ {input : Array E} {range : Span} {settings : Settings} {s : Search E},
      Search.prepare p input range settings = .ok s →
        ∀ n m, s.runFor n s.start = .next m →
          m.registers.Counted p.registers ∧
            (∀ u ∈ m.trail.items, ∀ h ∈ u.registers, p.registers.Has h) ∧
            (m.status = .inProgress → ∀ f m', s.cycle m = .fault f m' → f.OfProgram s m) := by
  have fresh : (Session.fresh elements).Backed .blank := ⟨.blank elements, nofun, nofun⟩
  obtain ⟨follows, -, named⟩ := fresh.replay honest replayed
  have decodable := follows.decodable named assembled
  refine ⟨decodable.listing_ok, decodable, ?_⟩
  intro input range settings s prepared n m ran
  obtain ⟨rfl, start, stop⟩ := Search.prepare_spec prepared
  exact Search.runFor_decodable decodable start stop ran

/-- A program that clears a save point which is not there unless the input starts with a seven. -/
theorem assembled_is_decodable_clear :
    ∃ (calls : List (Call Nat)) (session : Session Nat) (p : Program Nat) (s : Search Nat),
      (Session.fresh []).replay calls = .ok session ∧ (Session.fresh []).honest calls = true ∧
      session.assembler.assemble = .ok p ∧ (∃ text, p.listing = .ok text) ∧
      Search.prepare p #[5] ⟨0, 1⟩ {} = .ok s ∧
      ∃ m m', s.runFor 2 s.start = .next m ∧ s.cycle m = .fault .noSavePoint m' ∧
        Fault.noSavePoint.OfProgram s m := by
  let calls : List (Call Nat) :=
    [.makeBoolRegister, .makeToken, .emit (.assertion 7 ⟨0⟩), .emit (.condBranch ⟨0⟩ ⟨0⟩),
      .emit .clear, .label ⟨0⟩, .emit .accept]
  let search (p : Program Nat) : Search Nat := ⟨p, #[5], ⟨0, 1⟩, {}⟩
  let clears : Step → Bool
    | .fault .noSavePoint _ => true
    | _ => false
  have ends : ((Session.fresh []).replay calls).toOption.any fun session =>
      session.assembler.assemble.toOption.any fun p =>
        ((search p).runFor 2 (search p).start).leadsTo fun m =>
          m.status = .inProgress ∧ clears ((search p).cycle m) := by decide +kernel
  have honest : (Session.fresh []).honest calls = true := by decide +kernel
  cases replayed : (Session.fresh []).replay calls with
  | error f => rw [replayed] at ends; cases ends
  | ok session =>
    rw [replayed] at ends
    simp only [Except.toOption, Option.any_some] at ends
    cases assembled : session.assembler.assemble with
    | error f => rw [assembled] at ends; cases ends
    | ok p =>
      rw [assembled] at ends
      obtain ⟨m, ran, live, stuck⟩ := Step.exists_of_leadsTo ends
      obtain ⟨listed, -, runs⟩ := assembled_is_decodable replayed honest assembled
      have prepared : Search.prepare p #[5] ⟨0, 1⟩ {} = .ok (search p) := rfl
      obtain ⟨m', faulty⟩ : ∃ m', (search p).cycle m = .fault .noSavePoint m' := by
        generalize (search p).cycle m = step at stuck
        rcases step with m' | ⟨f, m'⟩
        · cases stuck
        · cases f <;> cases stuck
          exact ⟨m', rfl⟩
      exact ⟨calls, session, p, search p, replayed, honest, assembled, listed, prepared, m, m', ran,
        faulty, (runs prepared 2 m ran).2.2 live _ m' faulty⟩

end PatternMachine

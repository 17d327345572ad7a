import Mathlib.Algebra.Group.Nat.Defs
import PatternMachine.Proofs.Assembler.History
import PatternMachine.Proofs.Instruction.Naming

/-! Assembling fails for targets that are never bound, and for nothing else. Otherwise every statement
that has been emitted stands at its place, and every jump leads to the address of its token. -/
namespace PatternMachine

variable {E : Type}

/-- The target of an operation is the address of the token that the statement names. -/
theorem Statement.Means.target {p : Program E} {address? : Token → Option Address} {st : Statement E}
    {op : Operation} (means : st.Means p address? op) :
    op.target? = st.target?.bind address? := by
  cases st
  case branch target | save target | saveAddress target | clearThrough target | call target |
      condBranch condition target =>
    obtain ⟨a, rfl, bound⟩ := means
    exact bound.symm
  case nop | abort | matchElement | assertion | print =>
    obtain ⟨r, rfl, -⟩ := means
    rfl
  all_goals
    cases means
    rfl

namespace Assembler

variable {a final : Assembler E} {p : Program E}

theorem assemble_size (assembled : final.assemble = .ok p) : p.code.size = final.size := by
  obtain ⟨code, linked, done⟩ := bind_eq_ok.mp assembled
  cases done
  rw [Array.mapM_eq_mapM_toList] at linked
  cases mapped : final.lines.toList.mapM (link final.tokens) with
  | error f => rw [mapped] at linked; cases linked
  | ok instructions =>
    rw [mapped] at linked
    cases linked
    exact mapM_length mapped

theorem assemble_ok (each : ∀ line ∈ final.lines.toList, ∃ i, link final.tokens line = .ok i) :
    ∃ p, final.assemble = .ok p := by
  obtain ⟨instructions, mapped⟩ := mapM_ok each
  refine ⟨_, bind_eq_ok.mpr ⟨instructions.toArray, ?_, rfl⟩⟩
  rw [Array.mapM_eq_mapM_toList, mapped]
  rfl

/-- A line can be linked once its target is bound to an address that fits. -/
theorem link_ok {line : Line} {st : Statement E} (awaits : line.Awaits st)
    (bound : ∀ token, st.target? = some token →
      ∃ address, a.address? token = some address ∧ address.index ≤ Operand.maxPayload) :
    ∃ i, link a.tokens line = .ok i := by
  unfold link
  rw [awaits.target]
  cases named : st.target? with
  | none => exact ⟨_, rfl⟩
  | some token =>
    obtain ⟨address, known, fits⟩ := bound token named
    have slot : a.tokens[token.index]? = some (some address) := Option.join_eq_some_iff.mp known
    have free := awaits.free (by rw [named]; rfl)
    have set : ∃ o, line.instruction.operand.setPayload address = .ok o := by
      unfold Operand.setPayload
      rw [dif_neg (by rw [free]; exact Bool.false_ne_true), dif_pos fits]
      exact ⟨_, rfl⟩
    obtain ⟨o, set⟩ := set
    simp only [slot, set]
    exact ⟨_, rfl⟩

namespace Follows

variable {d : Draft E}

/-- Assembling works once every target is bound. -/
theorem assemble_bound (h : a.Follows d) (fits : a.size < 2 ^ 40 - 1)
    (bound : ∀ st ∈ d.statements, ∀ token, st.target? = some token → d.address? token ≠ none) :
    ∃ p, a.assemble = .ok p := by
  apply assemble_ok
  intro line member
  obtain ⟨i, inside, rfl⟩ := List.mem_iff_getElem.mp member
  have within : i < d.statements.length := h.size ▸ inside
  obtain ⟨line, there, awaits⟩ := h.lines i _ (List.getElem?_eq_getElem within)
  rw [← Array.getElem?_toList, List.getElem?_eq_getElem inside] at there
  rw [Option.some.inj there]
  apply link_ok awaits
  intro token named
  obtain ⟨address, known⟩ :=
    Option.ne_none_iff_exists'.mp (bound _ (List.getElem_mem within) token named)
  refine ⟨address, (h.address token).trans known, ?_⟩
  have le := h.bounded token address known
  have size := h.size
  have top : Operand.maxPayload = 2 ^ 40 - 2 := rfl
  omega

/-- In a program every target has an address. -/
theorem target_bound (h : a.Follows d) (assembled : a.assemble = .ok p) {st : Statement E}
    (member : st ∈ d.statements) {token : Token} (named : st.target? = some token) :
    d.address? token ≠ none := by
  obtain ⟨i, inside, rfl⟩ := List.mem_iff_getElem.mp member
  obtain ⟨op, -, means⟩ := h.stands i _ (List.getElem?_eq_getElem inside) a p (.refl a) assembled
  rw [← h.address]
  generalize d.statements[i] = st at named means
  cases st <;> cases named
  all_goals
    obtain ⟨x, -, bound⟩ := means
    rw [bound]
    exact Option.some_ne_none x

/-- Assembling fails if and only if a statement names a token that has no address. -/
theorem assemble_error (h : a.Follows d) (fits : a.size < 2 ^ 40 - 1) :
    (∃ f, a.assemble = .error f) ↔
      ∃ st ∈ d.statements, ∃ token, st.target? = some token ∧ d.address? token = none := by
  by_cases unbound : ∃ st ∈ d.statements, ∃ token, st.target? = some token ∧ d.address? token = none
  · refine ⟨fun _ => unbound, fun _ => ?_⟩
    obtain ⟨st, member, token, named, none⟩ := unbound
    cases assembled : a.assemble with
    | error f => exact ⟨f, rfl⟩
    | ok p => exact absurd none (h.target_bound assembled member named)
  · refine ⟨fun ⟨f, failed⟩ => ?_, fun found => absurd found unbound⟩
    obtain ⟨p, assembled⟩ := h.assemble_bound fits fun st member token named none =>
      unbound ⟨st, member, token, named, none⟩
    rw [failed] at assembled
    cases assembled

/-- Every statement stands in the program as it was emitted, and its target is in the program or
right behind it. -/
theorem assemble_stands (h : a.Follows d) (assembled : a.assemble = .ok p) :
    p.code.size = d.statements.length ∧ ∀ (i : Nat) st, d.statements[i]? = some st →
      ∃ op, p.operation? i = some op ∧ st.Means p d.address? op ∧
        ∀ target, op.target? = some target → target.index ≤ p.code.size := by
  have size : p.code.size = d.statements.length := (assemble_size assembled).trans h.size
  refine ⟨size, fun i st known => ?_⟩
  have same : a.address? = d.address? := funext h.address
  obtain ⟨op, place, means⟩ := h.stands i st known a p (.refl a) assembled
  rw [same] at means
  refine ⟨op, place, means, fun target named => ?_⟩
  rw [means.target] at named
  obtain ⟨token, -, bound⟩ := Option.bind_eq_some_iff.mp named
  rw [size]
  exact h.bounded token target bound

end Follows

end Assembler

/-! ### The result -/

/-- After every history of calls that has not failed, assembling fails if and only if a jump that was emitted
names a token that was never bound. Otherwise the program consists of the statements in the order in which
they were emitted, each with its operands, and each jump with the address that its token was bound to, before
or after. Assembling in between, wherever that can be done, changes nothing. -/
theorem assemble_links [DecidableEq E] {elements : List E} {calls : List (Call E)} {s : Session E}
    (replayed : (Session.fresh elements).replay calls = .ok s)
    (fits : s.assembler.size < 2 ^ 40 - 1) :
    ((∃ f, s.assembler.assemble = .error f) ↔
      ∃ st ∈ (Draft.of calls).statements, ∃ token,
        st.target? = some token ∧ (Draft.of calls).address? token = none) ∧
    (∀ p, s.assembler.assemble = .ok p → p.code.size = (Draft.of calls).statements.length ∧
      ∀ (i : Nat) st, (Draft.of calls).statements[i]? = some st →
        ∃ op, p.operation? i = some op ∧ st.Means p (Draft.of calls).address? op ∧
          ∀ target, op.target? = some target → target.index ≤ p.code.size) ∧
    (Session.fresh elements).replay (calls.filter Call.changes) = .ok s ∧
    ∀ before after, calls = before ++ after →
      ∀ t, (Session.fresh elements).replay before = .ok t →
        ∀ p, t.assembler.assemble = .ok p →
          (Session.fresh elements).replay (before ++ .assemble :: after) = .ok s := by
  have follows := Session.replay_follows replayed
  refine ⟨follows.assemble_error fits, fun p => follows.assemble_stands, ?_, ?_⟩
  · exact Session.replay_changes replayed
  · rintro before after rfl t there p assembled
    exact Session.replay_insert replayed there assembled

/-- A loop with a way out: a jump back to a resolved token, two uses of a label that comes later, one at
the end of the program, and a first draft that is given up. -/
theorem assemble_links_loop :
    ∃ (calls : List (Call Nat)) (s : Session Nat) (p : Program Nat),
      (Session.fresh [3]).replay calls = .ok s ∧ s.assembler.size < 2 ^ 40 - 1 ∧
      s.assembler.assemble = .ok p ∧ p.code.size = 6 ∧
      p.operation? 1 = some (.save ⟨4⟩) ∧ p.operation? 3 = some (.branch ⟨0⟩) ∧
      p.operation? 4 = some (.condBranch ⟨0⟩ ⟨4⟩) ∧ p.operation? 5 = some (.branch ⟨6⟩) := by
  let calls : List (Call Nat) :=
    [.makeToken, .emit (.save ⟨0⟩), .reset, .makeToken, .makeToken, .makeToken, .makeBoolRegister,
      .emit (.nop (some "start")), .resolve ⟨0⟩, .emit (.save ⟨1⟩), .internElement 7,
      .emit (.matchElement 8), .emit (.branch ⟨0⟩), .label ⟨1⟩, .assemble,
      .emit (.condBranch ⟨0⟩ ⟨1⟩), .emit (.branch ⟨2⟩), .label ⟨2⟩]
  obtain ⟨s, replayed⟩ : ∃ s, (Session.fresh [3]).replay calls = .ok s :=
    exists_ok (by decide +kernel)
  have size : s.assembler.size = 6 := (Session.replay_follows replayed).size
  have fits : s.assembler.size < 2 ^ 40 - 1 := by omega
  obtain ⟨fails, reads, -⟩ := assemble_links replayed fits
  have bound : ¬∃ st ∈ (Draft.of calls).statements, ∃ token,
      st.target? = some token ∧ (Draft.of calls).address? token = none := by
    have each : ∀ st ∈ (Draft.of calls).statements,
        st.target?.all fun token => ((Draft.of calls).address? token).isSome := by decide
    rintro ⟨st, member, token, named, unbound⟩
    have known := each st member
    rw [named, Option.all_some, unbound] at known
    cases known
  cases assembled : s.assembler.assemble with
  | error f => exact absurd (fails.mp ⟨f, assembled⟩) bound
  | ok p =>
    obtain ⟨length, stands⟩ := reads p assembled
    have jump (i : Nat) (st : Statement Nat) (known : (Draft.of calls).statements[i]? = some st)
        {target : Token} {a : Address} {make : Address → Operation}
        (named : ∀ op, st.Means p (Draft.of calls).address? op →
          ∃ a, op = make a ∧ (Draft.of calls).address? target = some a)
        (bound : (Draft.of calls).address? target = some a) : p.operation? i = some (make a) := by
      obtain ⟨op, place, means, -⟩ := stands i st known
      exact Statement.read_target ⟨op, place, named op means⟩ bound
    exact ⟨calls, s, p, replayed, fits, assembled, length,
      jump 1 (.save ⟨1⟩) rfl (fun _ means => means) rfl,
      jump 3 (.branch ⟨0⟩) rfl (fun _ means => means) rfl,
      jump 4 (.condBranch ⟨0⟩ ⟨1⟩) rfl (fun _ means => means) rfl,
      jump 5 (.branch ⟨2⟩) rfl (fun _ means => means) rfl⟩

end PatternMachine

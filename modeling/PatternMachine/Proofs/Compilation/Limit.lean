import PatternMachine.Proofs.Assembler.Linking
import PatternMachine.Proofs.Compilation.Tightening

/-! The limit on the number of instructions decides whether there is a program, and never which one. Two
limits, the second not above the first, give the same unless the second is exceeded. -/
namespace PatternMachine

variable {E : Type}

namespace Compilation

variable {c : Compilation E} {strict lenient : Outcome (Compilation E)} {p : Program E}

/-- A program that is returned has as many instructions as were emitted, and no more than allowed. -/
theorem finish_size (h : c.finish = .ok p) : p.code.size = c.size ∧ c.size ≤ c.limit := by
  obtain ⟨d, checked, assembled⟩ := bind_eq_ok.mp h
  cases checkSize_eq checked
  refine ⟨Assembler.assemble_size (lift_eq_ok.mp assembled), Nat.not_lt.mp fun larger => ?_⟩
  rw [checkSize, if_pos larger] at checked
  cases checked

theorem finish_over (larger : c.limit < c.size) : c.finish = .error (.error .tooLarge) := by
  rw [finish, checkSize, if_pos larger]
  rfl

theorem finish_within (within : c.size ≤ c.limit) : c.finish = lift c.assembler.assemble := by
  rw [finish, checkSize, if_neg (by omega)]
  rfl

/-- Nothing but the size is wrong with what has been emitted, unless a contract is broken. -/
theorem finish_error {e : CompileError} (h : c.finish = .error (.error e)) : e = .tooLarge := by
  by_cases larger : c.limit < c.size
  · rw [finish_over larger] at h
    cases h
    rfl
  · rw [finish_within (by omega)] at h
    revert h
    cases c.assembler.assemble <;> exact nofun

end Compilation

open Compilation

/-- What `strict` is, which allows `limit` instructions, when `lenient` allows more: the same program if it
is small enough, and the same error unless the limit is exceeded first. So what is too large for `lenient`
is too large for `strict`. -/
structure Limited (limit : Nat) (strict lenient : Outcome (Program E)) : Prop where
  same : ∀ p, lenient = .ok p → p.code.size ≤ limit → strict = .ok p
  tooLarge : ∀ p, lenient = .ok p → limit < p.code.size → strict = .error (.error .tooLarge)
  rejected : ∀ e, lenient = .error e → strict = .error e ∨ strict = .error (.error .tooLarge)
  bounded : ∀ p, strict = .ok p → p.code.size ≤ limit

namespace Compilation

/-- Both compilations end, the stricter one as said above. No limit exceeds what addresses can name. -/
theorem Tightened.finish {productions : List (String × Pattern E)} {fewer more : Nat}
    {c : Compilation E} {strict lenient : Outcome (Compilation E)} (le : fewer ≤ more)
    (limited : c.limit = min more Operand.maxPayload)
    (h : Tightened productions (min fewer Operand.maxPayload) c strict lenient) :
    Limited fewer (strict >>= Compilation.finish) (lenient >>= Compilation.finish) := by
  cases h with
  | rejected e =>
    constructor
    case rejected => exact fun _ eq => .inl eq
    all_goals exact nofun
  | @same d grows =>
    have limit_d : d.limit = min more Operand.maxPayload := grows.limit.trans limited
    have within (fits : d.size ≤ min fewer Operand.maxPayload) :
        (d.under productions (min fewer Operand.maxPayload)).finish = d.finish := by
      rw [finish_within (c := d) (by omega), finish_within fits]
      rfl
    have beyond (larger : min fewer Operand.maxPayload < d.size) :
        (d.under productions (min fewer Operand.maxPayload)).finish = .error (.error .tooLarge) :=
      finish_over larger
    constructor
    case same =>
      intro p eq small
      obtain ⟨size, fits⟩ := finish_size eq
      exact (within (by omega)).trans eq
    case tooLarge =>
      intro p eq large
      obtain ⟨size, fits⟩ := finish_size eq
      exact beyond (by omega)
    case rejected =>
      intro e eq
      by_cases fits : d.size ≤ min fewer Operand.maxPayload
      · exact .inl ((within fits).trans eq)
      · exact .inr (beyond (by omega))
    case bounded =>
      intro p eq
      obtain ⟨size, fits⟩ := finish_size eq
      have fits : d.size ≤ min fewer Operand.maxPayload := fits
      have size : p.code.size = d.size := size
      omega
  | tooLarge larger =>
    constructor
    case same =>
      intro p eq small
      obtain ⟨d, rfl, eq⟩ := bind_eq_ok.mp eq
      obtain ⟨grows, exceeds⟩ := larger d rfl
      obtain ⟨size, fits⟩ := finish_size eq
      have limit_d := grows.limit
      omega
    case tooLarge => exact fun _ _ _ => rfl
    case rejected => exact fun _ _ => .inr rfl
    case bounded => exact nofun

section

variable [DecidableEq E] {productions productions' : List (String × Pattern E)} {limit limit' : Nat}
  (alike : ∀ name, productions'.lookup name = productions.lookup name) (le : limit' ≤ limit)

include alike le

theorem tightens_alone (q : Pattern E) :
    Tightens productions productions' limit limit' (emitAlone q) :=
  tightens_andThen (tightens_makeCaptures _) <|
  tightens_andThen (tightens_pattern alike le q) fun c _ _ => tightened_emit c .accept

theorem tightens_grammar (g : Grammar E) :
    Tightens productions productions' limit limit' (emitGrammar g) := by
  have jump : Tightens productions productions' limit limit' fun c =>
      c.entry g.start >>= fun met => met.2.emit (.branch met.1) :=
    tightens_made (f := fun token c => c.emit (.branch token)) (makesAlike_entry alike g.start)
      fun token c _ _ => tightened_emit c (.branch token)
  intro c found limited
  exact tightens_andThen (tightens_andThen (tightens_makeCaptures g.captureCount) jump)
    (tightens_pending alike le g.productions.length) c found limited

end

end Compilation

/-- Grammars that cannot be told apart by looking up names. -/
structure Grammar.Alike (g g' : Grammar E) : Prop where
  start : g'.start = g.start
  get? : ∀ name, g'.get? name = g.get? name
  length : g'.productions.length = g.productions.length
  captureCount : g'.captureCount = g.captureCount

theorem Grammar.Alike.refl (g : Grammar E) : g.Alike g := ⟨rfl, fun _ => rfl, rfl, rfl⟩

theorem Grammar.Alike.symm {g g' : Grammar E} (alike : g.Alike g') : g'.Alike g :=
  ⟨alike.start.symm, fun name => (alike.get? name).symm, alike.length.symm, alike.captureCount.symm⟩

variable [DecidableEq E]

theorem Grammar.Alike.limited {g g' : Grammar E} (alike : g.Alike g') {fewer more : Nat}
    (le : fewer ≤ more) : Limited fewer (g'.compile fewer) (g.compile more) := by
  have emission : emitGrammar g' = emitGrammar g := by
    funext c
    simp only [emitGrammar, openGrammar, alike.start, alike.length, alike.captureCount]
  have stricter : min fewer Operand.maxPayload ≤ min more Operand.maxPayload := by omega
  rw [g.compile_eq, g'.compile_eq, emission]
  exact Tightened.finish le rfl
    (tightens_grammar alike.get? stricter g (.start g.productions more) rfl rfl)

theorem Grammar.Alike.compile_eq {g g' : Grammar E} (alike : g.Alike g') (limit : Nat) :
    g'.compile limit = g.compile limit := by
  have there := alike.limited (Nat.le_refl limit)
  have back := alike.symm.limited (Nat.le_refl limit)
  cases compiled : g.compile limit with
  | ok p => exact there.same p compiled (back.bounded p compiled)
  | error e =>
    rcases there.rejected e compiled with same | larger
    · exact same
    · rcases back.rejected _ larger with same | same
      all_goals exact larger.trans (same.symm.trans compiled)

theorem Pattern.limited (q : Pattern E) {fewer more : Nat} (le : fewer ≤ more) :
    Limited fewer (q.compile fewer) (q.compile more) := by
  have stricter : min fewer Operand.maxPayload ≤ min more Operand.maxPayload := by omega
  rw [q.compile_eq, q.compile_eq]
  exact Tightened.finish le rfl
    (tightens_alone (fun _ => rfl) stricter q (.start [] more) rfl rfl)

/-- The limit is exact for patterns and for grammars, whatever they hold. -/
theorem compile_under_limit (q : Pattern E) (g : Grammar E) {fewer more : Nat} (le : fewer ≤ more) :
    Limited fewer (q.compile fewer) (q.compile more) ∧
      Limited fewer (g.compile fewer) (g.compile more) :=
  ⟨q.limited le, (Grammar.Alike.refl g).limited le⟩

/-- Six instructions are enough for one copy of the body and two optional ones, and five are not. Behind
the pattern, the grammar is wrong anyway. -/
theorem compile_under_limit_six :
    let q : Pattern Nat := .repetition (.range 1 3) .greedy (.element 7)
    let g : Grammar Nat := ⟨"a", [("a", .concat [q, .reference "b"])]⟩
    (∃ p, q.compile 100 = .ok p ∧ q.compile 6 = .ok p) ∧
      q.compile 5 = .error (.error .tooLarge) ∧
      (g.compile 5 = .error (.error (.undefinedProduction "b")) ∨
        g.compile 5 = .error (.error .tooLarge)) := by
  intro q g
  have size : (q.compile 100).toOption.map (·.code.size) = some 6 := by decide +kernel
  obtain ⟨p, accepted, size⟩ := Option.map_eq_some_iff.mp size
  have compiled : q.compile 100 = .ok p := eq_ok accepted
  have undefined : g.compile 100 = .error (.error (.undefinedProduction "b")) := by
    with_unfolding_all rfl
  have six : 6 ≤ 100 := by decide
  have five : 5 ≤ 100 := by decide
  obtain ⟨enough, -⟩ := compile_under_limit q g six
  obtain ⟨few, few'⟩ := compile_under_limit q g five
  exact ⟨⟨p, compiled, enough.same p compiled (by omega)⟩, few.tooLarge p compiled (by omega),
    few'.rejected _ undefined⟩

end PatternMachine

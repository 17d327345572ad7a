import PatternMachine.Proofs.Compilation.Stepwise
import PatternMachine.Proofs.Layout.Emission

/-! Two compilations of one thing, the second under a limit that is not above the first and with productions
that are found alike. They go the same way until the second finds its size too large; the first one grows
beyond that limit as well, unless it is rejected. -/
namespace PatternMachine

variable {E : Type}

namespace Compilation

/-- The same compilation with other productions and another limit. -/
def under (c : Compilation E) (productions : List (String × Pattern E)) (limit : Nat) :
    Compilation E := { c with productions, limit }

/-- No instruction gets lost, and productions and limit stay. -/
structure Grows (c d : Compilation E) : Prop where
  size : c.size ≤ d.size
  productions : d.productions = c.productions
  limit : d.limit = c.limit

namespace Grows

variable {a b c : Compilation E}

theorem refl (c : Compilation E) : c.Grows c := ⟨Nat.le_refl _, rfl, rfl⟩

theorem trans (h : a.Grows b) (h' : b.Grows c) : a.Grows c :=
  ⟨Nat.le_trans h.size h'.size, h'.productions.trans h.productions, h'.limit.trans h.limit⟩

end Grows

/-- What becomes of `c` under the stricter limit, and under its own. -/
inductive Tightened (productions : List (String × Pattern E)) (limit : Nat) (c : Compilation E) :
    Outcome (Compilation E) → Outcome (Compilation E) → Prop
  | same {d : Compilation E} (grows : c.Grows d) :
    Tightened productions limit c (.ok (d.under productions limit)) (.ok d)
  | rejected (e : Rejection) : Tightened productions limit c (.error e) (.error e)
  | tooLarge {outcome : Outcome (Compilation E)}
    (larger : ∀ d, outcome = .ok d → c.Grows d ∧ limit < d.size) :
    Tightened productions limit c (.error (.error .tooLarge)) outcome

namespace Tightened

variable {productions : List (String × Pattern E)} {limit : Nat} {b c d : Compilation E}
  {strict lenient : Outcome (Compilation E)}

theorem of_grows (grows : b.Grows c) (h : Tightened productions limit c strict lenient) :
    Tightened productions limit b strict lenient := by
  cases h with
  | same grows' => exact .same (grows.trans grows')
  | rejected e => exact .rejected e
  | tooLarge larger => exact .tooLarge fun d eq => ⟨grows.trans (larger d eq).1, (larger d eq).2⟩

theorem grows (h : Tightened productions limit c strict (.ok d)) : c.Grows d := by
  cases h with
  | same grows => exact grows
  | tooLarge larger => exact (larger d rfl).1

end Tightened

/-- Under a stricter limit the emission goes the same way, as far as it goes. -/
def Tightens (productions productions' : List (String × Pattern E)) (limit limit' : Nat)
    (body : Emission E) : Prop :=
  ∀ c : Compilation E, c.productions = productions → c.limit = limit →
    Tightened productions' limit' c (body (c.under productions' limit')) (body c)

section

variable {productions productions' : List (String × Pattern E)} {limit limit' : Nat}

theorem tightens_nothing : Tightens productions productions' limit limit' .ok :=
  fun c _ _ => .same (.refl c)

theorem tightens_andThen {first second : Emission E}
    (h : Tightens productions productions' limit limit' first)
    (h' : Tightens productions productions' limit limit' second) :
    Tightens productions productions' limit limit' fun c => first c >>= second := by
  intro c found limited
  have outcome := h c found limited
  revert outcome
  dsimp only
  generalize first (c.under productions' limit') = strict
  generalize first c = lenient
  intro outcome
  cases outcome with
  | rejected e => exact .rejected e
  | same grows =>
    exact (h' _ (grows.productions.trans found) (grows.limit.trans limited)).of_grows grows
  | tooLarge larger =>
    refine .tooLarge fun d eq => ?_
    obtain ⟨b, rfl, finished⟩ := bind_eq_ok.mp eq
    obtain ⟨grows, exceeds⟩ := larger b rfl
    have later := h' b (grows.productions.trans found) (grows.limit.trans limited)
    rw [finished] at later
    exact ⟨grows.trans later.grows, Nat.lt_of_lt_of_le exceeds later.grows.size⟩

theorem tightens_reject (what : Rejection) :
    Tightens productions productions' limit limit' fun _ => .error what :=
  fun _ _ _ => .rejected what

/-- The only step that looks at the limit. -/
theorem tightens_checkSize (le : limit' ≤ limit) :
    Tightens productions productions' limit limit' checkSize := by
  intro c _ limited
  by_cases exceeds : limit' < c.size
  · have strict : (c.under productions' limit').checkSize = .error (.error .tooLarge) := if_pos exceeds
    rw [strict]
    refine .tooLarge fun d eq => ?_
    cases checkSize_eq eq
    exact ⟨.refl c, exceeds⟩
  · have strict : (c.under productions' limit').checkSize = .ok (c.under productions' limit') :=
      if_neg exceeds
    have lenient : c.checkSize = .ok c := if_neg (by omega)
    rw [strict, lenient]
    exact .same (.refl c)

/-- The step makes the same under both limits, and keeps the size. -/
def MakesAlike {α : Type} (productions productions' : List (String × Pattern E))
    (limit limit' : Nat) (step : Compilation E → Outcome (α × Compilation E)) : Prop :=
  ∀ c : Compilation E, c.productions = productions → c.limit = limit →
    (∃ e, step c = .error e ∧ step (c.under productions' limit') = .error e) ∨
      ∃ made d, step c = .ok (made, d) ∧ c.Grows d ∧
        step (c.under productions' limit') = .ok (made, d.under productions' limit')

theorem tightens_made {α : Type} {step : Compilation E → Outcome (α × Compilation E)}
    (h : MakesAlike productions productions' limit limit' step) {f : α → Emission E}
    (h' : ∀ made, Tightens productions productions' limit limit' (f made)) :
    Tightens productions productions' limit limit'
      fun c => step c >>= fun made => f made.1 made.2 := by
  intro c found limited
  dsimp only
  rcases h c found limited with ⟨e, eq, eq'⟩ | ⟨made, d, eq, grows, eq'⟩
  · rw [eq, eq']
    exact .rejected e
  · rw [eq, eq']
    exact (h' made d (grows.productions.trans found) (grows.limit.trans limited)).of_grows grows

theorem makesAlike_position : MakesAlike productions productions' limit limit' makePosition := by
  intro c _ _
  simp only [makePosition, under]
  cases made : c.assembler.makePositionRegister with
  | error e => exact .inl ⟨_, rfl, rfl⟩
  | ok result =>
    have lines := (Assembler.makePositionRegister_spec made).2.2.2.1
    exact .inr ⟨_, _, rfl, ⟨Nat.le_of_eq (congrArg Array.size lines).symm, rfl, rfl⟩, rfl⟩

theorem makesAlike_progress : MakesAlike productions productions' limit limit' progressRegister := by
  intro c _ _
  simp only [progressRegister, under]
  cases known : c.progress with
  | some register => exact .inr ⟨register, c, rfl, .refl c, by rw [known]⟩
  | none =>
    cases made : c.assembler.makeBoolRegister with
    | error e => exact .inl ⟨_, rfl, rfl⟩
    | ok result =>
      have lines := (Assembler.makeBoolRegister_spec made).2.2.1
      exact .inr ⟨_, _, rfl, ⟨Nat.le_of_eq (congrArg Array.size lines).symm, rfl, rfl⟩, rfl⟩

/-- The only step that looks at the productions. -/
theorem makesAlike_entry (alike : ∀ name, productions'.lookup name = productions.lookup name)
    (name : String) : MakesAlike productions productions' limit limit' (·.entry name) := by
  intro c found _
  simp only [entry, under]
  cases c.entries.lookup name with
  | some token => exact .inr ⟨_, _, rfl, .refl c, rfl⟩
  | none =>
    simp only [alike, found]
    cases productions.lookup name with
    | none => exact .inl ⟨_, rfl, rfl⟩
    | some body => exact .inr ⟨_, _, rfl, ⟨Nat.le_refl _, rfl, rfl⟩, rfl⟩

/-- A step of the assembler looks at neither the limit nor the productions. -/
theorem tightened_lift {c : Compilation E} (step : Except Fault (Assembler E))
    (size : ∀ assembler, step = .ok assembler → c.size ≤ assembler.size) :
    Tightened productions' limit' c
      (lift step >>= fun assembler => .ok { c.under productions' limit' with assembler })
      (lift step >>= fun assembler => .ok { c with assembler }) := by
  cases step with
  | error e => exact .rejected _
  | ok assembler =>
    have grows : c.Grows { c with assembler } := ⟨size assembler rfl, rfl, rfl⟩
    exact .same grows

theorem tightened_emit [DecidableEq E] (c : Compilation E) (st : Statement E) :
    Tightened productions' limit' c ((c.under productions' limit').emit st) (c.emit st) := by
  refine tightened_lift _ fun assembler emitted => ?_
  have size := (Assembler.emit_extends emitted).2.1
  exact Nat.le_of_lt (Nat.lt_of_lt_of_eq (Nat.lt_succ_self _) size.symm)

theorem tightens_label (token : Token) :
    Tightens productions productions' limit limit' (·.label token) := by
  intro c _ _
  refine tightened_lift _ fun assembler bound => ?_
  have lines := (Assembler.bind_spec bound).2.2.1
  exact Nat.le_of_eq (congrArg Array.size lines).symm

theorem tightens_token {f : Token → Emission E}
    (h : ∀ token, Tightens productions productions' limit limit' (f token)) :
    Tightens productions productions' limit limit' fun c => f c.makeToken.1 c.makeToken.2 := by
  have made : MakesAlike productions productions' limit limit' fun c => .ok c.makeToken :=
    fun _ _ _ => .inr ⟨_, _, rfl, ⟨Nat.le_refl _, rfl, rfl⟩, rfl⟩
  exact tightens_made made h

theorem tightens_group {index : Nat} {missing : Emission E} {f : CaptureRegister → Emission E}
    (h : Tightens productions productions' limit limit' missing)
    (h' : ∀ register, Tightens productions productions' limit limit' (f register)) :
    Tightens productions productions' limit limit' fun c => match c.captures[index]? with
      | none => missing c
      | some register => f register c := by
  intro c found limited
  simp only [under]
  cases c.captures[index]? with
  | none => exact h c found limited
  | some register => exact h' register c found limited

section

variable [DecidableEq E] (alike : ∀ name, productions'.lookup name = productions.lookup name)
  (le : limit' ≤ limit)

include alike le

theorem tightens_stepwise :
    Stepwise (fun _ => True) (fun _ => True) (Tightens productions productions' limit limit') where
  nothing := tightens_nothing
  andThen := tightens_andThen
  reject what _ _ := tightens_reject what
  checkSize := tightens_checkSize le
  emit st _ c _ _ := tightened_emit c st
  label := tightens_label
  token := tightens_token
  position := tightens_made makesAlike_position
  progress := tightens_made makesAlike_progress
  predicate p := by
    intro c _ _
    have grows : c.Grows { c with assembler := (c.assembler.addPredicate p).2 } :=
      ⟨Nat.le_refl _, rfl, rfl⟩
    exact (tightened_emit _ _).of_grows grows
  consumer f := by
    intro c _ _
    have grows : c.Grows { c with assembler := (c.assembler.addConsumeFunction f).2 } :=
      ⟨Nat.le_refl _, rfl, rfl⟩
    exact (tightened_emit _ _).of_grows grows
  group := tightens_group (tightens_reject _)
  backreference _ _ := tightens_group (tightens_reject _) fun register c _ _ =>
    tightened_emit c (.backreference register)
  entry _ h := tightens_made (makesAlike_entry alike _) h

theorem tightens_pattern (q : Pattern E) : Tightens productions productions' limit limit' q.emit :=
  (tightens_stepwise alike le).emitPattern q (fun _ _ => trivial) fun _ _ => trivial

/-! ### Programs -/

omit [DecidableEq E] alike le in
theorem tightens_makeCaptures (n : Nat) :
    Tightens productions productions' limit limit' (makeCaptures n) := by
  induction n with
  | zero => exact tightens_nothing
  | succ n ih =>
    intro c found limited
    simp only [makeCaptures, under]
    cases made : c.assembler.makeCaptureRegister with
    | error e => exact .rejected _
    | ok result =>
      let d : Compilation E := { c with
        assembler := result.2
        captures := c.captures.push result.1 }
      have lines := (Assembler.makeCaptureRegister_spec made).2.2.2
      have grows : c.Grows d := ⟨Nat.le_of_eq (congrArg Array.size lines).symm, rfl, rfl⟩
      exact (ih d found limited).of_grows grows

theorem tightens_production (q : PendingProduction E) :
    Tightens productions productions' limit limit' (·.emitProduction q) :=
  tightens_andThen (tightens_label q.entry) <|
  tightens_andThen (fun c _ _ => tightened_emit c (.nop (some q.name))) <|
  tightens_andThen (tightens_pattern alike le q.body) fun c _ _ => tightened_emit c .ret

theorem tightens_pending (rounds : Nat) :
    Tightens productions productions' limit limit' (emitPending rounds) := by
  induction rounds with
  | zero => exact tightens_nothing
  | succ rounds ih =>
    intro c found limited
    simp only [emitPending, under]
    cases pending : c.pending with
    | nil =>
      have same : Tightened productions' limit' c _ _ := .same (.refl c)
      rwa [under, pending] at same
    | cons q rest =>
      have grows : c.Grows { c with pending := rest } := ⟨Nat.le_refl _, rfl, rfl⟩
      exact (tightens_andThen (tightens_production alike le q) ih { c with pending := rest } found
        limited).of_grows grows

end

end

end Compilation

end PatternMachine

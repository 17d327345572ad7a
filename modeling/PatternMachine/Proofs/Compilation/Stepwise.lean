import PatternMachine.Compilation.Grammar

/-! Emissions are made of steps: statements, tokens, registers, labels and checks, one after the other. What
holds of the steps and passes from two emissions to their sequence holds of the code of every pattern. -/
namespace PatternMachine

variable {E : Type}

namespace Pattern

mutual

/-- The names that the code of a pattern calls. A body that never takes part has no code. -/
def callees : Pattern E → List String
  | concat parts => allCallees parts
  | alternation branches => allCallees branches
  | repetition amount _ body => if amount.most = some 0 then [] else body.callees
  | capture _ _ body => body.callees
  | reference name => [name]
  | lookahead _ body => body.callees
  | atomic body => body.callees
  | empty | any | element _ | literal _ | predicate _ | consumer _ | anchor _ | backreference _ => []

def allCallees : List (Pattern E) → List String
  | [] => []
  | q :: rest => q.callees ++ allCallees rest

end

/-- The first pattern is the second one or takes part in it. -/
inductive Part (q : Pattern E) : Pattern E → Prop
  | self : Part q q
  | concat {part : Pattern E} {parts : List (Pattern E)} (member : part ∈ parts)
    (inner : Part q part) : Part q (concat parts)
  | alternation {branch : Pattern E} {branches : List (Pattern E)} (member : branch ∈ branches)
    (inner : Part q branch) : Part q (alternation branches)
  | repetition {amount : Amount} {preference : Preference} {body : Pattern E}
    (takesPart : amount.most ≠ some 0) (inner : Part q body) : Part q (repetition amount preference body)
  | capture {index : Nat} {name : Option String} {body : Pattern E} (inner : Part q body) :
    Part q (capture index name body)
  | lookahead {kind : Lookahead} {body : Pattern E} (inner : Part q body) : Part q (lookahead kind body)
  | atomic {body : Pattern E} (inner : Part q body) : Part q (atomic body)

end Pattern

/-- The statements that the code of patterns consists of. Comments, returns and acceptances stand around
it, and nothing else is ever emitted. -/
def Statement.OfPattern : Statement E → Prop
  | .nop _ | .saveAddress _ | .restore | .ret | .accept | .abort _ | .assertion _ _ | .print _ => False
  | _ => True

namespace Compilation

variable [DecidableEq E]

/-- The property holds of the steps of emissions that refer to such names and groups only, and of
sequences. -/
structure Stepwise (names : String → Prop) (groups : Nat → Prop) (Φ : Emission E → Prop) : Prop where
  nothing : Φ .ok
  andThen : ∀ {first second : Emission E}, Φ first → Φ second → Φ fun c => first c >>= second
  reject : ∀ what, (∀ name, what ≠ .error (.undefinedProduction name)) →
    (∀ index, what ≠ .error (.invalidBackreference index)) → Φ fun _ => .error what
  checkSize : Φ checkSize
  emit : ∀ st : Statement E, st.OfPattern → Φ (·.emit st)
  label : ∀ token, Φ (·.label token)
  token : ∀ {f : Token → Emission E}, (∀ token, Φ (f token)) →
    Φ fun c => f c.makeToken.1 c.makeToken.2
  position : ∀ {f : PositionRegister → Emission E}, (∀ register, Φ (f register)) →
    Φ fun c => c.makePosition >>= fun made => f made.1 made.2
  progress : ∀ {f : BoolRegister → Emission E}, (∀ register, Φ (f register)) →
    Φ fun c => c.progressRegister >>= fun made => f made.1 made.2
  predicate : ∀ p : E → Bool, Φ (·.emitPredicate p)
  consumer : ∀ f : ConsumeFunction E, Φ (·.emitConsumer f)
  group : ∀ {index : Nat} {f : CaptureRegister → Emission E}, (∀ register, Φ (f register)) →
    Φ fun c => match c.captures[index]? with
      | none => .error (.fault .indexOutOfBounds)
      | some register => f register c
  backreference : ∀ index, groups index → Φ (·.emitBackreference index)
  entry : ∀ {name : String} {f : Token → Emission E}, names name → (∀ token, Φ (f token)) →
    Φ fun c => c.entry name >>= fun met => f met.1 met.2

namespace Stepwise

variable {names : String → Prop} {groups : Nat → Prop} {Φ : Emission E → Prop} {body : Emission E}

/-! ### Constructs -/

theorem atomically (h : Stepwise names groups Φ) (inner : Φ body) : Φ (·.atomically body) :=
  h.token fun intercept => h.token fun done =>
    h.andThen (h.emit (.save intercept) trivial) <| h.andThen inner <|
    h.andThen (h.emit (.clearThrough intercept) trivial) <|
    h.andThen (h.emit (.branch done) trivial) <| h.andThen (h.label intercept) <|
    h.andThen (h.emit .fail trivial) (h.label done)

theorem settleAhead (h : Stepwise names groups Φ) (kind : Lookahead) (intercept : Token) :
    Φ (·.settleAhead kind intercept) := by
  have fail : Φ (·.emit .fail) := h.emit _ trivial
  have clear : Φ (·.emit .clear) := h.emit _ trivial
  cases kind with
  | positive => exact h.andThen fail (h.andThen (h.label intercept) (h.andThen clear fail))
  | negative => exact h.andThen clear (h.andThen fail (h.andThen (h.label intercept) fail))

theorem lookingAhead (h : Stepwise names groups Φ) (kind : Lookahead) (inner : Φ body) :
    Φ (·.lookingAhead kind body) :=
  h.token fun success => h.token fun intercept =>
    h.andThen (h.emit (.save success) trivial) <| h.andThen (h.emit (.save intercept) trivial) <|
    h.andThen inner <| h.andThen (h.emit (.clearThrough intercept) trivial) <|
    h.andThen (h.settleAhead kind intercept) (h.label success)

theorem branch (h : Stepwise names groups Φ) (done : Token) (inner : Φ body) : Φ (·.branch done body) :=
  h.token fun next => h.andThen (h.emit (.save next) trivial) <| h.andThen inner <|
    h.andThen (h.emit (.branch done) trivial) (h.label next)

theorem mandatory (h : Stepwise names groups Φ) (inner : Φ body) (n : Nat) : Φ (mandatory body n) := by
  induction n with
  | zero => exact h.nothing
  | succ n ih => exact h.andThen inner ih

theorem choose (h : Stepwise names groups Φ) (greedy : Bool) (exit : Token) : Φ (·.choose greedy exit) := by
  cases greedy with
  | true => exact h.emit (.save exit) trivial
  | false =>
    exact h.token fun more => h.andThen (h.emit (.save more) trivial) <|
      h.andThen (h.emit (.branch exit) trivial) (h.label more)

theorem optional (h : Stepwise names groups Φ) (greedy : Bool) (done : Token) (inner : Φ body) (n : Nat) :
    Φ (optional greedy done body n) := by
  induction n with
  | zero => exact h.nothing
  | succ n ih => exact h.andThen (h.choose greedy done) (h.andThen inner ih)

theorem upTo (h : Stepwise names groups Φ) (greedy : Bool) (inner : Φ body) (n : Nat) :
    Φ (·.upTo n greedy body) := by
  cases n with
  | zero => exact h.nothing
  | succ n => exact h.token fun done => h.andThen (h.optional greedy done inner (n + 1)) (h.label done)

theorem checkedIteration (h : Stepwise names groups Φ) (register : PositionRegister) (exit : Token)
    (inner : Φ body) : Φ (·.checkedIteration register exit body) :=
  h.andThen (h.emit (.movePosition register) trivial) <| h.andThen inner <|
    h.progress fun stuck => h.andThen (h.emit (.comparePosition register stuck) trivial)
      (h.emit (.condBranch stuck exit) trivial)

theorem loop (h : Stepwise names groups Φ) (greedy : Bool) {iteration : Token → Emission E}
    (inner : ∀ exit, Φ (iteration exit)) : Φ (·.loop greedy iteration) :=
  h.token fun top => h.token fun exit => h.andThen (h.label top) <|
    h.andThen (h.choose greedy exit) <| h.andThen (inner exit) <|
    h.andThen (h.emit (.branch top) trivial) (h.label exit)

theorem star (h : Stepwise names groups Φ) (greedy nullable : Bool) (inner : Φ body) :
    Φ (·.star greedy nullable body) := by
  cases nullable with
  | false => exact h.loop greedy fun _ => inner
  | true =>
    exact h.position fun register => h.loop greedy fun exit => h.checkedIteration register exit inner

/-- A body that never takes part is not emitted. -/
theorem repeated (h : Stepwise names groups Φ) (greedy nullable : Bool) {least : Nat} {most : Option Nat}
    (ordered : most = some 0 → least = 0) (inner : most ≠ some 0 → Φ body) :
    Φ (·.repeated least most greedy nullable body) := by
  cases most with
  | none => exact h.andThen (h.mandatory (inner nofun) least) (h.star greedy nullable (inner nofun))
  | some most =>
    cases most with
    | zero =>
      cases ordered rfl
      exact h.nothing
    | succ most =>
      have inner := inner (by simp)
      exact h.andThen (h.mandatory inner least) (h.upTo greedy inner (most + 1 - least))

theorem emitRepetition (h : Stepwise names groups Φ) (amount : Amount) (preference : Preference)
    (nullable : Bool) (inner : amount.most ≠ some 0 → Φ body) :
    Φ (·.emitRepetition amount preference nullable body) := by
  have go (ordered : amount.most = some 0 → amount.least = 0) :
      Φ (emitRepetition.go · amount preference nullable body) := by
    cases preference with
    | greedy => exact h.repeated true nullable ordered inner
    | reluctant => exact h.repeated false nullable ordered inner
    | possessive => exact h.atomically (h.repeated true nullable ordered inner)
  unfold Compilation.emitRepetition
  cases bound : amount.most with
  | none => exact go (by simp [bound])
  | some most =>
    by_cases reversed : most < amount.least
    · simp only [if_pos reversed]
      exact h.reject _ (by simp) (by simp)
    · simp only [if_neg reversed]
      refine go fun none => ?_
      rw [bound] at none
      cases none
      exact Nat.le_zero.mp (Nat.not_lt.mp reversed)

theorem emitLiteral (h : Stepwise names groups Φ) (elements : List E) : Φ (emitLiteral elements) := by
  induction elements with
  | nil => exact h.nothing
  | cons e rest ih => exact h.andThen (h.emit (.matchElement e) trivial) ih

theorem emitAnchor (h : Stepwise names groups Φ) (a : Anchor) : Φ (·.emitAnchor a) := by
  cases a with
  | start => exact h.consumer Pattern.startOfInput
  | stop => exact h.lookingAhead .negative (h.emit (.consume 1) trivial)

theorem emitCapture (h : Stepwise names groups Φ) (index : Nat) (inner : Φ body) :
    Φ (·.emitCapture index body) :=
  h.group fun register => h.andThen (h.emit (.beginCapture register) trivial) <|
    h.andThen inner (h.emit (.endCapture register) trivial)

theorem emitReference (h : Stepwise names groups Φ) {name : String} (named : names name) :
    Φ (·.emitReference name) :=
  h.entry named fun entry => h.emit (.call entry) trivial

/-! ### Patterns -/

/-- Every pattern is preceded by a check of the size. -/
theorem checked (h : Stepwise names groups Φ) (inner : Φ body) : Φ fun c => c.checkSize >>= body :=
  h.andThen h.checkSize inner

mutual

theorem emitPattern (h : Stepwise names groups Φ) (q : Pattern E) (named : ∀ name ∈ q.callees, names name)
    (grouped : ∀ index, (Pattern.backreference index).Part q → groups index) : Φ q.emit := by
  cases q with
  | empty => exact h.checkSize
  | any => exact h.checked (h.emit (.consume 1) trivial)
  | element e => exact h.checked (h.emit (.matchElement e) trivial)
  | literal elements => exact h.checked (h.emitLiteral elements)
  | predicate p => exact h.checked (h.predicate p)
  | consumer f => exact h.checked (h.consumer f)
  | concat parts =>
    exact h.checked (h.emitParts parts named fun _ member _ part => grouped _ (.concat member part))
  | alternation branches =>
    exact h.checked <| h.token fun done =>
      h.andThen (h.emitBranches done branches named fun _ member _ part =>
        grouped _ (.alternation member part)) (h.label done)
  | repetition amount preference body =>
    refine h.checked (h.emitRepetition amount preference _ fun takesPart => ?_)
    refine h.emitPattern body (fun name member => named name ?_) fun _ part =>
      grouped _ (.repetition takesPart part)
    rw [Pattern.callees, if_neg takesPart]
    exact member
  | capture index name body =>
    exact h.checked (h.emitCapture index (h.emitPattern body named fun _ part => grouped _ (.capture part)))
  | reference name => exact h.checked (h.emitReference (named name (List.mem_singleton_self name)))
  | lookahead kind body =>
    exact h.checked (h.lookingAhead kind (h.emitPattern body named fun _ part =>
      grouped _ (.lookahead part)))
  | atomic body =>
    exact h.checked (h.atomically (h.emitPattern body named fun _ part => grouped _ (.atomic part)))
  | anchor a => exact h.checked (h.emitAnchor a)
  | backreference index => exact h.checked (h.backreference index (grouped index .self))

theorem emitParts (h : Stepwise names groups Φ) (parts : List (Pattern E))
    (named : ∀ name ∈ Pattern.allCallees parts, names name)
    (grouped : ∀ q ∈ parts, ∀ index, (Pattern.backreference index).Part q → groups index) :
    Φ (Pattern.emitParts parts) := by
  cases parts with
  | nil => exact h.nothing
  | cons q rest =>
    exact h.andThen
      (h.emitPattern q (fun name member => named name (List.mem_append_left _ member))
        (grouped q List.mem_cons_self))
      (h.emitParts rest (fun name member => named name (List.mem_append_right _ member))
        fun q member => grouped q (List.mem_cons_of_mem _ member))

theorem emitBranches (h : Stepwise names groups Φ) (done : Token) (branches : List (Pattern E))
    (named : ∀ name ∈ Pattern.allCallees branches, names name)
    (grouped : ∀ q ∈ branches, ∀ index, (Pattern.backreference index).Part q → groups index) :
    Φ (Pattern.emitBranches done branches) := by
  match branches with
  | [] => exact h.emit .fail trivial
  | [q] =>
    exact h.emitPattern q (fun name member => named name (List.mem_append_left _ member))
      (grouped q List.mem_cons_self)
  | q :: q' :: rest =>
    exact h.andThen
      (h.branch done (h.emitPattern q (fun name member => named name (List.mem_append_left _ member))
        (grouped q List.mem_cons_self)))
      (h.emitBranches done (q' :: rest) (fun name member => named name (List.mem_append_right _ member))
        fun q member => grouped q (List.mem_cons_of_mem _ member))

end

end Stepwise

/-! ### Steps that lead on -/

section

variable {Goes : Compilation E → Compilation E → Prop} {Errs : Compilation E → Rejection → Prop}
  {b c d : Compilation E} {outcome : Outcome (Compilation E)}

/-- What there is behind an emission is where it goes from its beginning, or an error that can come up
there. -/
def Along (Goes : Compilation E → Compilation E → Prop) (Errs : Compilation E → Rejection → Prop)
    (c : Compilation E) : Outcome (Compilation E) → Prop
  | .ok d => Goes c d
  | .error e => Errs c e

/-- Steps that neither meet productions nor open groups go on, whatever the assembler does. What can come up
later on can come up from the beginning, and so can all other errors. -/
structure LeadsOn (Goes : Compilation E → Compilation E → Prop)
    (Errs : Compilation E → Rejection → Prop) : Prop where
  trans : ∀ {b c d}, Goes b c → Goes c d → Goes b d
  back : ∀ {b c e}, Goes b c → Errs c e → Errs b e
  quiet : ∀ c assembler progress, Goes c { c with assembler, progress }
  other : ∀ c what, (∀ name, what ≠ .error (.undefinedProduction name)) →
    (∀ index, what ≠ .error (.invalidBackreference index)) → Errs c what

namespace LeadsOn

omit [DecidableEq E]

variable (h : LeadsOn Goes Errs)

include h

theorem refl (c : Compilation E) : Goes c c := h.quiet c c.assembler c.progress

theorem fault (c : Compilation E) (f : Fault) : Errs c (.fault f) := h.other c _ nofun nofun

theorem after (goes : Goes b c) (along : Along Goes Errs c outcome) : Along Goes Errs b outcome := by
  cases outcome with
  | ok d => exact h.trans goes along
  | error e => exact h.back goes along

theorem bind {f : Emission E} (first : Along Goes Errs c outcome)
    (rest : ∀ d, outcome = .ok d → Along Goes Errs d (f d)) : Along Goes Errs c (outcome >>= f) := by
  cases outcome with
  | error e => exact first
  | ok d => exact h.after first (rest d rfl)

theorem lift {α : Type} (step : Except Fault α) {f : α → Outcome (Compilation E)}
    (rest : ∀ made, Along Goes Errs c (f made)) : Along Goes Errs c (lift step >>= f) := by
  cases step with
  | error f => exact h.fault c f
  | ok made => exact rest made

/-- A step that makes something to go on with. -/
theorem made {α : Type} {step : Outcome (α × Compilation E)} {f : α → Emission E}
    (first : Along Goes Errs c (step.map (·.2))) (rest : ∀ made d, Along Goes Errs d (f made d)) :
    Along Goes Errs c (step >>= fun made => f made.1 made.2) := by
  cases step with
  | error e => exact first
  | ok made => exact h.after first (rest made.1 made.2)

theorem checkSize (c : Compilation E) : Along Goes Errs c c.checkSize := by
  unfold Compilation.checkSize
  split
  · exact h.other c _ (by simp) (by simp)
  · exact h.refl c

theorem label (token : Token) (c : Compilation E) : Along Goes Errs c (c.label token) :=
  h.lift _ fun assembler => h.quiet c assembler c.progress

theorem position (c : Compilation E) : Along Goes Errs c (c.makePosition.map (·.2)) := by
  unfold makePosition
  cases c.assembler.makePositionRegister with
  | error f => exact h.fault c f
  | ok made => exact h.quiet c made.2 c.progress

theorem progress (c : Compilation E) : Along Goes Errs c (c.progressRegister.map (·.2)) := by
  unfold progressRegister
  cases c.progress with
  | some register => exact h.refl c
  | none =>
    cases c.assembler.makeBoolRegister with
    | error f => exact h.fault c f
    | ok made => exact h.quiet c made.2 (some made.1)

theorem emit [DecidableEq E] (st : Statement E) (c : Compilation E) : Along Goes Errs c (c.emit st) :=
  h.lift _ fun assembler => h.quiet c assembler c.progress

/-- Beside such steps, only productions are met, and only groups can be missing. -/
theorem stepwise [DecidableEq E] {names : String → Prop} {groups : Nat → Prop}
    (entry : ∀ name, names name → ∀ c, Along Goes Errs c ((c.entry name).map (·.2)))
    (missing : ∀ index, groups index → ∀ c : Compilation E, c.captures[index]? = none →
      Errs c (.error (.invalidBackreference index))) :
    Stepwise names groups fun body : Emission E => ∀ c, Along Goes Errs c (body c) where
  nothing := h.refl
  andThen first rest c := h.bind (first c) fun d _ => rest d
  reject what named grouped c := h.other c what named grouped
  checkSize := h.checkSize
  emit st _ := h.emit st
  label := h.label
  token rest c := by
    have made : Goes c c.makeToken.2 := h.quiet c c.assembler.makeToken.2 c.progress
    exact h.after made (rest c.makeToken.1 c.makeToken.2)
  position rest c := h.made (h.position c) rest
  progress rest c := h.made (h.progress c) rest
  predicate p c := h.lift _ fun assembler => h.quiet c assembler c.progress
  consumer f c := h.lift _ fun assembler => h.quiet c assembler c.progress
  group rest c := by
    dsimp only
    split
    · exact h.fault c _
    · exact rest _ c
  entry named rest c := h.made (entry _ named c) rest
  backreference index grouped c := by
    dsimp only [emitBackreference]
    split
    next unknown => exact missing index grouped c unknown
    next register _ => exact h.emit (.backreference register) c

end LeadsOn

end

/-! ### Programs -/

/-- What turns a compilation into a program. -/
def finish (c : Compilation E) : Outcome (Program E) := do
  let c ← c.checkSize
  lift c.assembler.assemble

/-- The beginning of the program of a grammar, from which the start production is the only one met. -/
def openGrammar (g : Grammar E) (c : Compilation E) : Outcome (Compilation E) := do
  let c ← makeCaptures g.captureCount c
  let (entry, c) ← c.entry g.start
  c.emit (.branch entry)

/-- All the code of the program of a grammar. -/
def emitGrammar (g : Grammar E) (c : Compilation E) : Outcome (Compilation E) := do
  let c ← openGrammar g c
  emitPending g.productions.length c

/-- All the code of the program of a pattern. -/
def emitAlone (q : Pattern E) (c : Compilation E) : Outcome (Compilation E) := do
  let c ← makeCaptures q.captureCount c
  let c ← q.emit c
  c.emit .accept

end Compilation

open Compilation

theorem Pattern.compile_eq [DecidableEq E] (q : Pattern E) (limit : Nat) :
    q.compile limit = emitAlone q (.start [] limit) >>= finish := by
  simp only [Pattern.compile, emitAlone, bind_assoc]
  rfl

theorem Grammar.compile_eq [DecidableEq E] (g : Grammar E) (limit : Nat) :
    g.compile limit = emitGrammar g (.start g.productions limit) >>= finish := by
  simp only [Grammar.compile, emitGrammar, openGrammar, bind_assoc]
  rfl

end PatternMachine

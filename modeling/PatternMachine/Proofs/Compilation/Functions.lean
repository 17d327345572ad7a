import PatternMachine.Proofs.Compilation.Limit
import PatternMachine.Proofs.Compilation.Reached

/-! The program of a grammar is a jump to the start production and, one after the other, the functions of the
productions that can be reached from there. -/
namespace PatternMachine

variable {E : Type}

/-- Neither the beginning of a function nor its end. -/
def Operation.Inner : Operation → Prop
  | .nop _ | .ret => False
  | _ => True

/-- No function begins or ends between the two addresses. -/
def Program.Inner (p : Program E) (lo hi : Nat) : Prop :=
  ∀ i op, lo ≤ i → i < hi → p.operation? i = some op → op.Inner

theorem Statement.OfPattern.inner {st : Statement E} (h : st.OfPattern) {p : Program E}
    {address : Token → Option Address} {op : Operation} (means : st.Means p address op) : op.Inner := by
  cases st <;> simp only [Statement.Means] at means
  case nop | saveAddress | restore | ret | accept | abort | assertion | print => cases h
  case clear | fail | consume | consumeBy | matchPredicate | movePosition | comparePosition |
      beginCapture | endCapture | backreference =>
    subst means
    trivial
  all_goals
    obtain ⟨_, rfl, -⟩ := means
    trivial

namespace Compilation

variable {b c d final : Compilation E} {p : Program E}

/-- What was emitted in between neither begins nor ends a function. -/
def Inside (final : Compilation E) (p : Program E) (c d : Compilation E) : Prop :=
  Adds final p 0 c d ∧ (d.Extends final → p.Inner c.size d.size)

theorem Inside.of_quiet (h : Adds final p 0 c d ∧ d.size = c.size) : Inside final p c d := by
  obtain ⟨adds, size⟩ := h
  refine ⟨adds, ?_⟩
  intro _ i op above below
  omega

theorem Inside.trans (h : Inside final p b c) (h' : Inside final p c d) : Inside final p b d := by
  refine ⟨h.1.trans h'.1, ?_⟩
  intro grows i op above below known
  by_cases early : i < c.size
  · exact h.2 (h'.1.toExtends.trans grows) i op above early known
  · exact h'.2 grows i op (by omega) below known

section

variable [DecidableEq E] (assembled : final.assembler.assemble = .ok p)

include assembled

theorem emit_inside {st : Statement E} (ofPattern : st.OfPattern) (h : c.emit st = .ok d) :
    Inside final p c d := by
  obtain ⟨adds, size⟩ : Adds final p 0 c d ∧ d.size = c.size + 1 :=
    emit_adds assembled h fun _ _ => Nat.zero_le _
  refine ⟨adds, ?_⟩
  intro grows i op above below known
  have here : i = c.size := by omega
  subst here
  obtain ⟨op', place, means⟩ := emit_stands assembled h grows
  cases known.symm.trans place
  exact ofPattern.inner means

theorem inside_stepwise : Stepwise (fun _ => True) (fun _ => True) fun body : Emission E =>
    ∀ c d, body c = .ok d → Inside final p c d where
  nothing c d run := by
    cases run
    exact .of_quiet ⟨.refl c, rfl⟩
  andThen h h' c d run := by
    obtain ⟨b, first, second⟩ := bind_eq_ok.mp run
    exact (h c b first).trans (h' b d second)
  reject _ _ _ := nofun
  checkSize c d run := by
    cases checkSize_eq run
    exact .of_quiet ⟨.refl c, rfl⟩
  emit st ofPattern c d run := emit_inside assembled ofPattern run
  label token c d run := by
    obtain ⟨adds, size, -⟩ := label_adds run
    exact .of_quiet ⟨adds, size⟩
  token h c d run := (Inside.of_quiet (makeToken_adds rfl)).trans (h _ _ d run)
  position h c d run := by
    obtain ⟨made, found, run⟩ := bind_eq_ok.mp run
    obtain ⟨adds, size, -⟩ := makePosition_adds found
    exact (Inside.of_quiet ⟨adds, size⟩).trans (h _ _ d run)
  progress h c d run := by
    obtain ⟨made, found, run⟩ := bind_eq_ok.mp run
    obtain ⟨adds, size, -⟩ := progressRegister_adds found
    exact (Inside.of_quiet ⟨adds, size⟩).trans (h _ _ d run)
  predicate f c d run := by
    have grows := c.assembler.addPredicate_extends f
    have added : Adds final p 0 c { c with assembler := (c.assembler.addPredicate f).2 } :=
      .of_assembler grows rfl rfl fun fits => fits.mono grows
    exact (Inside.of_quiet ⟨added, rfl⟩).trans (emit_inside assembled (by trivial) run)
  consumer f c d run := by
    have grows := c.assembler.addConsumeFunction_extends f
    have added : Adds final p 0 c { c with assembler := (c.assembler.addConsumeFunction f).2 } :=
      .of_assembler grows rfl rfl fun fits => fits.mono grows
    exact (Inside.of_quiet ⟨added, rfl⟩).trans (emit_inside assembled (by trivial) run)
  group h c d run := by
    dsimp only at run
    split at run
    · cases run
    · exact h _ c d run
  backreference index _ c d run := by
    dsimp only [emitBackreference] at run
    split at run
    · cases run
    · exact emit_inside assembled (by trivial) run
  entry _ h c d run := by
    obtain ⟨met, found, run⟩ := bind_eq_ok.mp run
    obtain ⟨adds, size, -⟩ := entry_adds found
    exact (Inside.of_quiet ⟨adds, size⟩).trans (h _ _ d run)

theorem pattern_inside (q : Pattern E) (run : q.emit c = .ok d) : Inside final p c d :=
  (inside_stepwise assembled).emitPattern q (fun _ _ => trivial) (fun _ _ => trivial) c d run

end

end Compilation

/-! ### Calls -/

namespace Shape

variable {p : Program E} {body : Shape} {lo hi : Nat}

theorem mandatory_occurs {n : Nat} (h : mandatory body n lo hi) (some_ : n ≠ 0) :
    ∃ lo hi, body lo hi := by
  cases n with
  | zero => contradiction
  | succ n =>
    obtain ⟨mid, first, -⟩ := h
    exact ⟨lo, mid, first⟩

theorem upTo_occurs {n : Nat} {greedy : Bool} (h : upTo p n greedy body lo hi) (some_ : n ≠ 0) :
    ∃ lo hi, body lo hi := by
  cases n with
  | zero => contradiction
  | succ n =>
    obtain ⟨first, -, last, inner, -⟩ := h
    exact ⟨first, last, inner⟩

theorem star_occurs {greedy nullable : Bool} (h : star p greedy nullable body lo hi) :
    ∃ lo hi, body lo hi := by
  cases nullable with
  | false =>
    obtain ⟨first, last, -, inner, -⟩ := h
    exact ⟨first, last, inner⟩
  | true =>
    obtain ⟨-, first, -, -, ⟨last, -, -, inner, -⟩, -⟩ := h
    exact ⟨first + 1, last, inner⟩

theorem repeated_occurs {least : Nat} {most : Option Nat} {greedy nullable : Bool}
    (h : repeated p least most greedy nullable body lo hi) (some_ : most ≠ some 0) :
    ∃ lo hi, body lo hi := by
  obtain ⟨mid, first, rest⟩ := h
  by_cases none : least = 0
  · cases most with
    | none => exact star_occurs rest
    | some most =>
      refine upTo_occurs rest ?_
      intro nothing
      have : most = 0 := by omega
      simp [this] at some_
  · exact mandatory_occurs first none

/-- The body of a repetition is part of its code, unless it never takes part. -/
theorem repetition_occurs {amount : Amount} {preference : Preference} {nullable : Bool}
    (h : repetition p amount preference nullable body lo hi) (some_ : amount.most ≠ some 0) :
    ∃ lo hi, body lo hi := by
  cases preference with
  | greedy => exact repeated_occurs h some_
  | reluctant => exact repeated_occurs h some_
  | possessive =>
    obtain ⟨mid, -, inner, -⟩ := h
    exact repeated_occurs inner some_

end Shape

namespace Pattern

variable {p : Program E} {entry : String → Option Address} {name : String}

mutual

/-- Whatever the code of a pattern calls has an entry. -/
theorem Placed.entered {q : Pattern E} {lo hi : Nat} (h : q.Placed p entry lo hi)
    (member : name ∈ q.callees) : (entry name).isSome := by
  cases q with
  | concat parts => exact PlacedParts.entered h member
  | alternation branches => exact PlacedBranches.entered h member
  | repetition amount preference body =>
    rw [callees] at member
    by_cases nothing : amount.most = some 0
    · simp [nothing] at member
    · rw [if_neg nothing] at member
      obtain ⟨lo', hi', inner⟩ := Shape.repetition_occurs h nothing
      exact inner.entered member
  | capture index name body =>
    obtain ⟨mid, -, inner, -⟩ := h
    exact inner.entered member
  | reference name =>
    obtain ⟨-, op, -, a, -, found⟩ := h
    cases List.mem_singleton.mp member
    simp [found]
  | lookahead kind body =>
    obtain ⟨mid, -, -, inner, -⟩ := h
    exact inner.entered member
  | atomic body =>
    obtain ⟨mid, -, inner, -⟩ := h
    exact inner.entered member
  | _ => simp [callees] at member

theorem PlacedParts.entered {parts : List (Pattern E)} {lo hi : Nat}
    (h : PlacedParts p entry parts lo hi) (member : name ∈ allCallees parts) : (entry name).isSome := by
  cases parts with
  | nil => simp [allCallees] at member
  | cons q rest =>
    obtain ⟨mid, first, others⟩ := h
    rcases List.mem_append.mp member with member | member
    · exact first.entered member
    · exact PlacedParts.entered others member

theorem PlacedBranches.entered {done : Nat} {branches : List (Pattern E)} {lo hi : Nat}
    (h : PlacedBranches p entry done branches lo hi) (member : name ∈ allCallees branches) :
    (entry name).isSome := by
  match branches with
  | [] => simp [allCallees] at member
  | [q] =>
    have member : name ∈ q.callees := by simpa [allCallees] using member
    exact Placed.entered h member
  | q :: q' :: rest =>
    obtain ⟨mid, ⟨last, -, first, -⟩, others⟩ := h
    rcases List.mem_append.mp member with member | member
    · exact first.entered member
    · exact PlacedBranches.entered others member

end

end Pattern

/-! ### Functions -/

/-- The function of a production: its name, its body, and a return. -/
def Program.FunctionOf (p : Program E) (g : Grammar E) (entry : String → Option Address)
    (name : String) : Shape := fun lo hi =>
  ∃ body comment mid, g.get? name = some body ∧ entry name = some ⟨lo⟩ ∧
    p.operation? lo = some (.nop (some comment)) ∧ p.strings[comment.index]? = some name ∧
    body.Placed p entry (lo + 1) mid ∧ p.Inner (lo + 1) mid ∧
    p.operation? mid = some .ret ∧ hi = mid + 1

/-- The functions of the productions, one after the other. -/
def Program.Functions (p : Program E) (g : Grammar E) (entry : String → Option Address) :
    List String → Shape
  | [] => .nothing
  | name :: rest => .andThen (p.FunctionOf g entry name) (p.Functions g entry rest)

/-- The program consists of a jump to the start production and the functions of different productions,
which are those that can be reached. -/
structure Grammar.LaidOut (g : Grammar E) (p : Program E) (entry : String → Option Address)
    (names : List String) : Prop where
  start : ∃ a, entry g.start = some a ∧ p.operation? 0 = some (.branch a)
  functions : p.Functions g entry names 1 p.code.size
  distinct : names.Nodup
  reached : ∀ name, name ∈ names ↔ g.Reached name

theorem Program.Functions.mem {p : Program E} {g : Grammar E} {entry : String → Option Address}
    {names : List String} {name : String} {lo hi : Nat} (h : p.Functions g entry names lo hi)
    (member : name ∈ names) : ∃ lo hi, p.FunctionOf g entry name lo hi := by
  induction names generalizing lo with
  | nil => cases member
  | cons first rest ih =>
    obtain ⟨mid, function, others⟩ := h
    rcases List.mem_cons.mp member with rfl | member
    · exact ⟨lo, mid, function⟩
    · exact ih others member

namespace Compilation

variable {c d final : Compilation E} {p : Program E} {g : Grammar E} {done : List String}
  [DecidableEq E] (assembled : final.assembler.assemble = .ok p)

include assembled

theorem emitProduction_inner {q : PendingProduction E} (h : c.emitProduction q = .ok d)
    (grows : d.Extends final) : p.Inner (c.size + 1) (d.size - 1) := by
  obtain ⟨c₁, marked, h⟩ := bind_eq_ok.mp h
  obtain ⟨c₂, named, h⟩ := bind_eq_ok.mp h
  obtain ⟨c₃, inner, returns⟩ := bind_eq_ok.mp h
  obtain ⟨-, size₁, -⟩ : Adds final p 0 c c₁ ∧ _ := label_adds marked
  obtain ⟨-, size₂⟩ : Adds final p 0 c₁ c₂ ∧ c₂.size = c₁.size + 1 :=
    emit_quiet assembled named (by simp)
  obtain ⟨adds, size_d⟩ : Adds final p 0 c₃ d ∧ d.size = c₃.size + 1 :=
    emit_quiet assembled returns (by simp)
  have within := (pattern_inside assembled q.body inner).2 (adds.toExtends.trans grows)
  rw [size₂, size₁] at within
  rwa [size_d, Nat.add_sub_cancel]

/-- The functions that a worklist leads to are emitted one after the other. -/
theorem emitPending_functions {rounds : Nat} (ledger : Ledger g done c) (fits : c.Fits)
    (enough : g.productions.length ≤ done.length + rounds)
    (run : emitPending rounds c = .ok final) :
    ∃ later, Ledger g (done ++ later) final ∧ final.pending = [] ∧
      p.Functions g final.entryOf later c.size final.size := by
  induction rounds generalizing c done with
  | zero =>
    cases run
    have le := ledger.length_le
    exact ⟨[], by rwa [List.append_nil], List.eq_nil_of_length_eq_zero (by omega), rfl⟩
  | succ rounds ih =>
    cases pending : c.pending with
    | nil =>
      cases emitPending_nil run pending
      exact ⟨[], by rwa [List.append_nil], pending, rfl⟩
    | cons q rest =>
      obtain ⟨d, produced, run⟩ := emitPending_cons run pending
      have length : (done ++ [q.name]).length = done.length + 1 := List.length_append
      have grows := emitPending_extends assembled run
      obtain ⟨adds, stands⟩ := emitProduction_spec assembled produced
      have fits' : Fits { c with pending := rest } := ⟨fits.progress, fits.captures⟩
      obtain ⟨bound, comment, mid, size, name, text, body, returns⟩ := stands grows fits'
      have inner := emitProduction_inner assembled produced grows
      rw [size, Nat.add_sub_cancel] at inner
      obtain ⟨later, ledger', nothing, functions⟩ :=
        ih (ledger.produce pending produced) (adds.fits fits') (by omega) run
      have waits : q ∈ c.pending := by simp [pending]
      have known := grows.entries _ _ (adds.entries _ _ (ledger.entered q waits))
      have met : final.entryOf q.name = some ⟨c.size⟩ := by
        rw [entryOf, known]
        exact bound
      refine ⟨q.name :: later, by simpa using ledger', nothing, d.size, ?_, functions⟩
      exact ⟨q.body, comment, mid, ledger.waiting q waits, met, name, text, body, inner, returns, size⟩

theorem openGrammar_spec {limit : Nat} (h : openGrammar g (.start g.productions limit) = .ok c)
    (grows : c.Extends final) : c.size = 1 ∧ c.Fits ∧
      ∃ a, final.entryOf g.start = some a ∧ p.operation? 0 = some (.branch a) := by
  obtain ⟨a, made, h⟩ := bind_eq_ok.mp h
  obtain ⟨⟨token, b⟩, met, jumped⟩ := bind_eq_ok.mp h
  have fresh := makeCaptures_fresh made
  obtain ⟨adds, size, known⟩ : Adds final p 0 a b ∧ b.size = a.size ∧
    b.entries.lookup g.start = some token := entry_adds met
  obtain ⟨adds', size'⟩ : Adds final p 0 b c ∧ c.size = b.size + 1 :=
    emit_quiet assembled jumped (by simp)
  rw [size, fresh.size] at size'
  obtain ⟨_, place, address, rfl, bound⟩ := emit_stands assembled jumped grows
  rw [size, fresh.size] at place
  have found := (adds'.toExtends.trans grows).entries _ _ known
  refine ⟨size', adds'.fits (adds.fits fresh.fits), address, ?_, place⟩
  rw [entryOf, found]
  exact bound

end Compilation

open Compilation

section

variable [DecidableEq E] {g : Grammar E} {limit : Nat}

/-- Every production that can be reached is emitted: the code of one enters the next. -/
theorem Grammar.compile_laidOut {p : Program E} (h : g.compile limit = .ok p) :
    ∃ entry names, g.LaidOut p entry names := by
  rw [g.compile_eq] at h
  obtain ⟨final, emitted, finished⟩ := bind_eq_ok.mp h
  obtain ⟨c, opened, run⟩ := bind_eq_ok.mp emitted
  obtain ⟨d, checked, lifted⟩ := bind_eq_ok.mp finished
  cases checkSize_eq checked
  have assembled := lift_eq_ok.mp lifted
  have grows := emitPending_extends assembled run
  obtain ⟨size, fits, a, started, jump⟩ := openGrammar_spec assembled opened grows
  obtain ⟨names, ledger, nothing, functions⟩ :=
    emitPending_functions assembled (openGrammar_ledger opened) fits (by simp) run
  rw [size, ← (finish_size finished).1] at functions
  have met : (final.entries.map (·.1)).Perm names := by simpa [nothing] using ledger.met
  have named {name : String} (entered : (final.entryOf name).isSome) : name ∈ names := by
    obtain ⟨a, entered⟩ := Option.isSome_iff_exists.mp entered
    obtain ⟨token, found, -⟩ := Option.bind_eq_some_iff.mp entered
    exact met.mem_iff.mp (lookup_mem found)
  refine ⟨final.entryOf, names, ⟨a, started, jump⟩, functions, met.nodup_iff.mp ledger.distinct, ?_⟩
  intro name
  constructor
  · intro member
    exact ledger.reached name (met.mem_iff.mpr member)
  · intro reached
    induction reached with
    | refl => exact named (by simp [started])
    | tail _ calls ih =>
      obtain ⟨body, known, member⟩ := calls
      obtain ⟨lo, hi, body', comment, mid, known', -, -, -, inner, -⟩ := functions.mem ih
      cases known.symm.trans known'
      exact named (inner.entered member)

theorem Grammar.compile_undefined {name : String}
    (h : g.compile limit = .error (.error (.undefinedProduction name))) :
    g.Reached name ∧ g.get? name = none := by
  rw [g.compile_eq] at h
  rcases bind_eq_error.mp h with h | ⟨final, -, h⟩
  · rcases bind_eq_error.mp h with h | ⟨c, opened, h⟩
    · have meets := meets_open g (.start g.productions limit)
      rw [h] at meets
      obtain ⟨rfl, missing⟩ := meets name rfl
      exact ⟨.refl, missing⟩
    · exact emitPending_undefined (openGrammar_ledger opened) h
  · cases finish_error h

end

/-! ### Order -/

namespace Grammar

/-- The grammar to which productions were added one by one. -/
def ofList (start : String) (added : List (String × Pattern E)) : Grammar E :=
  added.foldl (fun g q => g.insert q.1 q.2) (.empty start)

theorem put_fresh {name : String} {body : Pattern E} {productions : List (String × Pattern E)}
    (fresh : name ∉ productions.map (·.1)) :
    put name body productions = productions ++ [(name, body)] := by
  induction productions with
  | nil => rfl
  | cons q rest ih =>
    simp only [List.map_cons, List.mem_cons, not_or] at fresh
    simp [put, ih fresh.2, Ne.symm fresh.1]

theorem foldl_insert {g : Grammar E} {added : List (String × Pattern E)}
    (distinct : ((g.productions ++ added).map (·.1)).Nodup) :
    added.foldl (fun g q => g.insert q.1 q.2) g = ⟨g.start, g.productions ++ added⟩ := by
  induction added generalizing g with
  | nil => simp
  | cons q rest ih =>
    have fresh : q.1 ∉ g.productions.map (·.1) := by
      intro member
      rw [List.map_append, List.nodup_append] at distinct
      exact distinct.2.2 q.1 member q.1 (by simp) rfl
    have inserted : (g.insert q.1 q.2).productions = g.productions ++ [q] := put_fresh fresh
    rw [List.foldl_cons, ih (by simpa [inserted] using distinct), inserted]
    simp [insert]

theorem ofList_eq {start : String} {added : List (String × Pattern E)}
    (distinct : (added.map (·.1)).Nodup) : ofList start added = ⟨start, added⟩ :=
  foldl_insert distinct

theorem captureCounts_perm {parts parts' : List (Pattern E)} (perm : parts.Perm parts') :
    Pattern.captureCounts parts = Pattern.captureCounts parts' := by
  induction perm with
  | nil => rfl
  | cons q _ ih => simp [Pattern.captureCounts, ih]
  | swap q q' rest => simp [Pattern.captureCounts, Nat.max_left_comm]
  | trans _ _ ih ih' => exact ih.trans ih'

theorem alike_of_perm {start : String} {added added' : List (String × Pattern E)}
    (distinct : (added.map (·.1)).Nodup) (perm : added.Perm added') :
    Alike ⟨start, added⟩ ⟨start, added'⟩ := by
  have distinct' : (added'.map (·.1)).Nodup := (perm.map _).nodup_iff.mp distinct
  constructor
  case start => rfl
  case get? =>
    intro name
    apply Option.ext
    intro body
    change added'.lookup name = some body ↔ added.lookup name = some body
    rw [lookup_iff_mem distinct, lookup_iff_mem distinct', perm.mem_iff]
  case length => exact perm.length_eq.symm
  case captureCount => exact (captureCounts_perm (perm.map (·.2))).symm

end Grammar

/-- Compiling a grammar emits what can be reached, each production once, and fails for a production that is
missing only if it can be reached. The order in which productions were added does not matter. -/
theorem compile_grammar_reaches [DecidableEq E] (g : Grammar E) (limit : Nat) :
    (∀ c, openGrammar g (.start g.productions limit) = .ok c →
      ∀ rounds, g.productions.length ≤ rounds →
        emitPending rounds c = emitPending g.productions.length c ∧
          ∀ d, emitPending rounds c = .ok d → d.pending = []) ∧
    (∀ p, g.compile limit = .ok p → ∃ entry names, g.LaidOut p entry names) ∧
    (∀ name, g.compile limit = .error (.error (.undefinedProduction name)) →
      g.Reached name ∧ g.get? name = none) ∧
    (∀ name, g.Reached name → g.get? name = none → ∀ p, g.compile limit ≠ .ok p) ∧
    (∀ start (added added' : List (String × Pattern E)), (added.map (·.1)).Nodup →
      added.Perm added' →
        (Grammar.ofList start added').compile limit = (Grammar.ofList start added).compile limit) := by
  refine ⟨?_, fun p => g.compile_laidOut, fun name => g.compile_undefined, ?_, ?_⟩
  · intro c opened rounds enough
    have ledger := openGrammar_ledger opened
    constructor
    · induction enough with
      | refl => rfl
      | step enough ih => exact (emitPending_enough ledger (by simpa using enough)).trans ih
    · intro d run
      exact (emitPending_done ledger (by simpa using enough) run).1
  · intro name reached missing p compiled
    obtain ⟨entry, names, laid⟩ := g.compile_laidOut compiled
    obtain ⟨lo, hi, body, comment, mid, known, -⟩ := laid.functions.mem ((laid.reached name).mpr reached)
    cases known.symm.trans missing
  · intro start added added' distinct perm
    have distinct' : (added'.map (·.1)).Nodup := (perm.map _).nodup_iff.mp distinct
    rw [Grammar.ofList_eq distinct, Grammar.ofList_eq distinct']
    exact (Grammar.alike_of_perm distinct perm).compile_eq limit

/-- What is missing is referred to only where it cannot take part, and where nothing leads. -/
theorem compile_grammar_reaches_two :
    let added : List (String × Pattern Nat) := [
      ("b", .concat [.repetition (.exactly 0) .greedy (.reference "missing"), .reference "a"]),
      ("a", .alternation [.concat [.element 0, .reference "b"], .element 1]),
      ("c", .reference "missing")]
    ∃ p entry names, (Grammar.ofList "a" added).compile 100 = .ok p ∧
      (Grammar.ofList "a" added.reverse).compile 100 = .ok p ∧
      (Grammar.ofList "a" added).LaidOut p entry names ∧
      ∀ name, name ∈ names ↔ name = "a" ∨ name = "b" := by
  intro added
  let g := Grammar.ofList "a" added
  have accepted : (g.compile 100).toOption.isSome = true := by decide +kernel
  obtain ⟨p, compiled⟩ := exists_ok accepted
  obtain ⟨-, layout, -, -, order⟩ := compile_grammar_reaches g 100
  obtain ⟨entry, names, laid⟩ := layout p compiled
  have same := order "a" added added.reverse (by decide) (List.reverse_perm added).symm
  refine ⟨p, entry, names, compiled, same.trans compiled, laid, fun name => ?_⟩
  rw [laid.reached]
  constructor
  · intro reached
    induction reached with
    | refl => exact .inl rfl
    | tail _ calls ih =>
      obtain ⟨body, known, member⟩ := calls
      rcases ih with rfl | rfl
      · cases Option.some.inj known
        exact .inr (List.mem_singleton.mp member)
      · cases Option.some.inj known
        exact .inl (List.mem_singleton.mp member)
  · have calls : g.Calls "a" "b" := ⟨_, rfl, by decide⟩
    rintro (rfl | rfl)
    · exact .refl
    · exact .single calls

end PatternMachine

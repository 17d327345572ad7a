import PatternMachine.Proofs.Language.Words
import PatternMachine.Proofs.Outcome.Search

/-! The program of a regular pattern decides its language. So it does not matter for acceptance in which
order the alternatives are tried, nor whether repetitions are greedy, nor when a loop leaves out empty
iterations. -/
namespace PatternMachine

variable {E : Type}

namespace Pattern

mutual

theorem Regular.bounded : (q : Pattern E) → q.Regular → q.Consumers ConsumeFunction.Bounded
  | empty, _ | any, _ | element _, _ | literal _, _ | predicate _, _ => trivial
  | concat parts, regular => AllRegular.bounded parts regular
  | alternation branches, regular => AllRegular.bounded branches regular
  | repetition _ _ body, regular => Regular.bounded body regular.2
  | capture _ _ body, regular => Regular.bounded body regular

theorem AllRegular.bounded :
    (parts : List (Pattern E)) → AllRegular parts → AllConsumers ConsumeFunction.Bounded parts
  | [], _ => trivial
  | q :: rest, regular => ⟨Regular.bounded q regular.1, AllRegular.bounded rest regular.2⟩

end

/-! ### Preferences -/

mutual

/-- The patterns differ in nothing but preferences: in the order of alternatives, and in whether repetitions
are greedy or reluctant. -/
inductive Rearranged : Pattern E → Pattern E → Prop
  | same (q : Pattern E) : Rearranged q q
  | concat {parts parts' : List (Pattern E)} : AllRearranged parts parts' →
      Rearranged (.concat parts) (.concat parts')
  | alternation {branches branches' branches'' : List (Pattern E)} : AllRearranged branches branches' →
      branches'.Perm branches'' → Rearranged (.alternation branches) (.alternation branches'')
  | repetition {amount : Amount} {preference preference' : Preference} {body body' : Pattern E} :
      preference' ≠ .possessive → Rearranged body body' →
        Rearranged (.repetition amount preference body) (.repetition amount preference' body')
  | capture {index : Nat} {name : Option String} {body body' : Pattern E} : Rearranged body body' →
      Rearranged (.capture index name body) (.capture index name body')

inductive AllRearranged : List (Pattern E) → List (Pattern E) → Prop
  | nil : AllRearranged [] []
  | cons {q q' : Pattern E} {rest rest' : List (Pattern E)} : Rearranged q q' →
      AllRearranged rest rest' → AllRearranged (q :: rest) (q' :: rest')

end

theorem allRegular_perm {branches branches' : List (Pattern E)} (perm : branches.Perm branches')
    (regular : AllRegular branches) : AllRegular branches' := by
  induction perm with
  | nil => exact regular
  | cons q _ ih => exact ⟨regular.1, ih regular.2⟩
  | swap q q' rest => exact ⟨regular.2.1, regular.1, regular.2.2⟩
  | trans _ _ ih ih' => exact ih' (ih regular)

/-- The order of the alternatives does not matter. -/
theorem languageOfAlternatives_perm {branches branches' : List (Pattern E)}
    (perm : branches.Perm branches') :
    languageOfAlternatives branches = languageOfAlternatives branches' := by
  induction perm with
  | nil => rfl
  | cons q _ ih => rw [languageOfAlternatives, languageOfAlternatives, ih]
  | swap q q' rest =>
    simp only [languageOfAlternatives]
    exact add_left_comm _ _ _
  | trans _ _ ih ih' => exact ih.trans ih'

mutual

theorem Rearranged.regular : {q q' : Pattern E} → q.Rearranged q' → q.Regular → q'.Regular
  | _, _, .same _, regular => regular
  | _, _, .concat parts, regular => AllRearranged.regular parts regular
  | _, _, .alternation branches perm, regular => allRegular_perm perm (AllRearranged.regular branches regular)
  | _, _, .repetition kept body, regular => ⟨kept, Rearranged.regular body regular.2⟩
  | _, _, .capture body, regular => (Rearranged.regular body regular :)

theorem AllRearranged.regular :
    {qs qs' : List (Pattern E)} → AllRearranged qs qs' → AllRegular qs → AllRegular qs'
  | _, _, .nil, regular => regular
  | _, _, .cons first rest, regular =>
    ⟨Rearranged.regular first regular.1, AllRearranged.regular rest regular.2⟩

end

mutual

/-- Preferences have no part in the language. -/
theorem Rearranged.language_eq : {q q' : Pattern E} → q.Rearranged q' → q'.language = q.language
  | _, _, .same _ => rfl
  | _, _, .concat parts => AllRearranged.sequence_eq parts
  | _, _, .alternation branches perm =>
    (languageOfAlternatives_perm perm).symm.trans (AllRearranged.alternatives_eq branches)
  | _, _, .repetition _ body => by rw [language, language, Rearranged.language_eq body]
  | _, _, .capture body => by rw [language, language, Rearranged.language_eq body]

theorem AllRearranged.sequence_eq : {qs qs' : List (Pattern E)} → AllRearranged qs qs' →
    languageOfSequence qs' = languageOfSequence qs
  | _, _, .nil => rfl
  | _, _, .cons first rest => by
    rw [languageOfSequence, languageOfSequence, Rearranged.language_eq first,
      AllRearranged.sequence_eq rest]

theorem AllRearranged.alternatives_eq : {qs qs' : List (Pattern E)} → AllRearranged qs qs' →
    languageOfAlternatives qs' = languageOfAlternatives qs
  | _, _, .nil => rfl
  | _, _, .cons first rest => by
    rw [languageOfAlternatives, languageOfAlternatives, Rearranged.language_eq first,
      AllRearranged.alternatives_eq rest]

end

/-! ### Acceptance -/

variable [DecidableEq E] {input : Array E} {range : Span}

mutual

/-- The outcomes of a regular pattern are where its words lead. -/
theorem outcomes_spells (valid : range.stop ≤ input.size) : (q : Pattern E) → q.Regular → q.Ordered →
    (q.outcomes input range).Spells input range.stop q.language
  | empty, _, _ => .stay valid
  | any, _, _ => .any valid
  | element e, _, _ => .element valid e
  | literal elements, _, _ => .literal valid elements
  | predicate f, _, _ => .single valid f
  | concat parts, regular, ordered => sequence_spells valid parts regular ordered
  | alternation branches, regular, ordered => alternatives_spells valid branches regular ordered
  | repetition _ _ body, regular, ordered =>
    .repetition valid ordered.1 regular.1 fun takesPart =>
      outcomes_spells valid body regular.2 (ordered.2 takesPart)
  | capture index _ body, regular, ordered => (outcomes_spells valid body regular ordered).capture index

theorem sequence_spells (valid : range.stop ≤ input.size) :
    (parts : List (Pattern E)) → AllRegular parts → AllOrdered parts →
      (sequence input range parts).Spells input range.stop (languageOfSequence parts)
  | [], _, _ => .stay valid
  | q :: rest, regular, ordered =>
    (outcomes_spells valid q regular.1 ordered.1).andThen valid
      (sequence_spells valid rest regular.2 ordered.2)

theorem alternatives_spells (valid : range.stop ≤ input.size) :
    (branches : List (Pattern E)) → AllRegular branches → AllOrdered branches →
      (alternatives input range branches).Spells input range.stop (languageOfAlternatives branches)
  | [], _, _ => .nothing
  | q :: rest, regular, ordered =>
    (outcomes_spells valid q regular.1 ordered.1).orElse
      (alternatives_spells valid rest regular.2 ordered.2)

end

end Pattern

/-- What a mode takes for a match: a word of the language, or one that begins with such a word. -/
def MatchMode.Takes (l : Language E) (word : List E) : MatchMode → Prop
  | .whole => word ∈ l
  | .anywhere => ∃ u ∈ l, u <+: word

/-- The beginnings of a slice are the slices with the same start. -/
theorem prefix_slice {input : Array E} {u : List E} {i k : Nat} (le : i ≤ k)
    (valid : k ≤ input.size) :
    u <+: slice input i k ↔ ∃ j, i ≤ j ∧ j ≤ k ∧ slice input i j = u := by
  constructor
  · rintro ⟨v, cut⟩
    obtain ⟨j, above, below, here, -⟩ := slice_eq_append le valid cut.symm
    exact ⟨j, above, below, here⟩
  · rintro ⟨j, above, below, rfl⟩
    exact ⟨slice input j k, slice_append above below⟩

variable [DecidableEq E]

namespace Pattern

/-- There is an outcome that the mode accepts if and only if the mode takes the range. -/
theorem firstOutcome_isSome {q : Pattern E} (regular : q.Regular) (ordered : q.Ordered)
    {input : Array E} {range : Span} (valid : range.start ≤ range.stop ∧ range.stop ≤ input.size)
    (mode : MatchMode) :
    (q.firstOutcome input range mode).isSome ↔
      mode.Takes q.language (slice input range.start range.stop) := by
  have spells := outcomes_spells valid.2 q regular ordered
    ⟨range.start, .replicate q.captureCount none⟩
  rw [firstOutcome, List.find?_isSome]
  cases mode with
  | whole =>
    have there := spells range.stop valid.1
    simp only [Nat.le_refl, valid.1, true_and] at there
    refine Iff.trans ?_ there
    simp
  | anywhere =>
    constructor
    · rintro ⟨m, member, -⟩
      obtain ⟨le, below, word⟩ := (spells m.position valid.1).mp ⟨m, member, rfl⟩
      exact ⟨_, word, (prefix_slice valid.1 valid.2).mpr ⟨_, le, below, rfl⟩⟩
    · rintro ⟨u, word, leading⟩
      obtain ⟨j, le, below, rfl⟩ := (prefix_slice valid.1 valid.2).mp leading
      obtain ⟨m, member, -⟩ := (spells j valid.1).mpr ⟨le, below, word⟩
      exact ⟨m, member, by simp⟩

theorem answers_of_regular [Spelled E] {q : Pattern E} {limit : Nat} {p : Program E}
    (compiled : q.compile limit = .ok p) (regular : q.Regular) {input : Array E} {range : Span}
    (valid : range.start ≤ range.stop ∧ range.stop ≤ input.size) (mode : MatchMode) :
    ∃ answer, p.Answers input range mode answer := by
  obtain ⟨hi, placed⟩ := Pattern.compile_placed compiled
  exact ⟨_, placed.program_answers (Regular.bounded q regular) valid mode⟩

theorem accepts_iff_takes [Spelled E] {q : Pattern E} {limit : Nat} {p : Program E}
    (compiled : q.compile limit = .ok p) (regular : q.Regular) {input : Array E} {range : Span}
    (valid : range.start ≤ range.stop ∧ range.stop ≤ input.size) (mode : MatchMode) :
    p.Accepts input range mode ↔ mode.Takes q.language (slice input range.start range.stop) := by
  obtain ⟨hi, placed⟩ := Pattern.compile_placed compiled
  have answers := placed.program_answers (Regular.bounded q regular) valid mode
  rw [answers.accepts_iff, firstMatch, Option.isSome_map]
  exact firstOutcome_isSome regular (Pattern.compile_ordered compiled) valid mode

end Pattern

/-- The program of a regular pattern comes to an answer. It accepts the words of the language, in the other mode
what begins with one. So patterns that differ in nothing but preferences accept the same. -/
theorem compiled_accepts_language [Spelled E] {q : Pattern E} {limit : Nat} {p : Program E}
    (compiled : q.compile limit = .ok p) (regular : q.Regular) (input : Array E) (range : Span)
    (valid : range.start ≤ range.stop ∧ range.stop ≤ input.size) (mode : MatchMode) :
    (∃ answer, p.Answers input range mode answer) ∧
      (p.Accepts input range mode ↔ mode.Takes q.language (slice input range.start range.stop)) ∧
      ∀ q' limit' p', q.Rearranged q' → q'.compile limit' = .ok p' →
        (p'.Accepts input range mode ↔ p.Accepts input range mode) := by
  have accepts := Pattern.accepts_iff_takes compiled regular valid mode
  refine ⟨Pattern.answers_of_regular compiled regular valid mode, accepts, ?_⟩
  intro q' limit' p' rearranged compiled'
  rw [accepts, Pattern.accepts_iff_takes compiled' (rearranged.regular regular) valid mode,
    rearranged.language_eq]

/-- Iterations that take nothing are left out, those that take something are not, whatever is tried first. -/
theorem compiled_accepts_language_nullable :
    let q : Pattern Nat := .concat
      [.repetition .zeroOrMore .reluctant (.alternation [.empty, .element 7]), .element 8]
    let q' : Pattern Nat := .concat
      [.repetition .zeroOrMore .greedy (.alternation [.element 7, .empty]), .element 8]
    ∃ p p', q.compile 100 = .ok p ∧ q'.compile 100 = .ok p' ∧ [7, 7, 8] ∈ q.language ∧
      ∀ r ∈ [p, p'], r.Accepts #[7, 7, 8] ⟨0, 3⟩ .whole ∧
        ∀ log, (Engine.findMatch ⟨r, {}⟩ #[7, 7, 8] ⟨0, 3⟩ .whole).result log =
          .ok (.ok (some ⟨⟨0, 3⟩, []⟩)) := by
  intro q q'
  have regular : q.Regular := ⟨⟨by decide, trivial, trivial, trivial⟩, trivial, trivial⟩
  have rearranged : q.Rearranged q' :=
    .concat (.cons (.repetition (by decide) (.alternation (.cons (.same _) (.cons (.same _) .nil))
      (.swap _ _ _))) (.cons (.same _) .nil))
  have accepted : (q.compile 100).toOption.isSome = true := by decide +kernel
  have accepted' : (q'.compile 100).toOption.isSome = true := by decide +kernel
  obtain ⟨p, compiled⟩ := exists_ok accepted
  obtain ⟨p', compiled'⟩ := exists_ok accepted'
  have runs : ∀ r ∈ (q.compile 100).toOption.toList ++ (q'.compile 100).toOption.toList,
      let s : Search Nat := ⟨r, #[7, 7, 8], ⟨0, 3⟩, { mode := .whole }⟩
      (s.runFor 100 s.start).leadsTo fun m =>
        m.status = .accepted ∧ m.exceeded = none ∧ m.position = 3 ∧ m.captures = [] := by decide +kernel
  have pinned (r : Program Nat) (member : r ∈ [p, p']) (answer : Option Match)
      (answers : r.Answers #[7, 7, 8] ⟨0, 3⟩ .whole answer) : answer = some ⟨⟨0, 3⟩, []⟩ ∧
        ∀ log, (Engine.findMatch ⟨r, {}⟩ #[7, 7, 8] ⟨0, 3⟩ .whole).result log = .ok (.ok answer) := by
    obtain ⟨m, ran, accepted, clear, position, captures⟩ :=
      Step.exists_of_leadsTo (runs r (by rw [compiled, compiled']; exact member))
    have found := answers.accepted {} (by decide) ran accepted clear
    rwa [position, captures] at found
  obtain ⟨⟨answer, answers⟩, takes, others⟩ :=
    compiled_accepts_language compiled regular #[7, 7, 8] ⟨0, 3⟩ (by decide) .whole
  obtain ⟨rfl, found⟩ := pinned p (by simp) answer answers
  obtain ⟨other, answers'⟩ := (others q' 100 p' rearranged compiled').mpr ⟨_, answers⟩
  obtain ⟨same, found'⟩ := pinned p' (by simp) (some other) answers'
  rw [same] at found'
  refine ⟨p, p', compiled, compiled', takes.mp ⟨_, answers⟩, fun r member => ?_⟩
  rcases List.mem_pair.mp member with rfl | rfl
  · exact ⟨⟨_, answers⟩, found⟩
  · exact ⟨⟨other, answers'⟩, found'⟩

end PatternMachine

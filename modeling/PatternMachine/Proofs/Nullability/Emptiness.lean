import PatternMachine.Proofs.Compilation.Functions
import PatternMachine.Proofs.Language.Acceptance
import PatternMachine.Proofs.Nullability.Advance

/-! Whether a pattern can match empty is decided with care: the code of a pattern that cannot never lets a
search through at one position, and regular patterns that can do match the empty input. -/
namespace PatternMachine

variable {E : Type}

/-! ### Parts -/

namespace Pattern

variable {p : Program E} {entry : String → Option Address} {q : Pattern E} {lo hi : Nat}

theorem PlacedParts.member {parts : List (Pattern E)} (h : PlacedParts p entry parts lo hi)
    (member : q ∈ parts) : ∃ lo hi, q.Placed p entry lo hi := by
  induction parts generalizing lo with
  | nil => cases member
  | cons first rest ih =>
    obtain ⟨mid, placed, others⟩ := h
    rcases List.mem_cons.mp member with rfl | member
    · exact ⟨lo, mid, placed⟩
    · exact ih others member

theorem PlacedBranches.member {done : Nat} {branches : List (Pattern E)}
    (h : PlacedBranches p entry done branches lo hi) (member : q ∈ branches) :
    ∃ lo hi, q.Placed p entry lo hi := by
  induction branches generalizing lo with
  | nil => cases member
  | cons first rest ih =>
    cases rest with
    | nil =>
      cases List.mem_singleton.mp member
      exact ⟨lo, hi, h⟩
    | cons second rest =>
      obtain ⟨mid, ⟨last, -, placed, -⟩, others⟩ := h
      rcases List.mem_cons.mp member with rfl | member
      · exact ⟨lo + 1, last, placed⟩
      · exact ih others member

/-- The code of a pattern has that of its parts in it. -/
theorem Part.placed {whole : Pattern E} (part : q.Part whole) (h : whole.Placed p entry lo hi) :
    ∃ lo hi, q.Placed p entry lo hi := by
  induction part generalizing lo hi with
  | self => exact ⟨lo, hi, h⟩
  | concat member _ ih =>
    obtain ⟨lo', hi', placed⟩ := PlacedParts.member h member
    exact ih placed
  | alternation member _ ih =>
    obtain ⟨lo', hi', placed⟩ := PlacedBranches.member h member
    exact ih placed
  | repetition takesPart _ ih =>
    obtain ⟨lo', hi', placed⟩ := Shape.repetition_occurs h takesPart
    exact ih placed
  | capture _ ih =>
    obtain ⟨mid, -, placed, -⟩ := h
    exact ih placed
  | lookahead _ ih =>
    obtain ⟨mid, -, -, placed, -⟩ := h
    exact ih placed
  | atomic _ ih =>
    obtain ⟨mid, -, placed, -⟩ := h
    exact ih placed

end Pattern

section

variable [DecidableEq E] {p : Program E} {q : Pattern E}

/-- The program is compiled from a pattern that the given one is a part of, or from a grammar that leads to
such a pattern. No consume function leaves its range. -/
def Program.Contains (p : Program E) (q : Pattern E) : Prop :=
  ∃ limit, (∃ whole : Pattern E, whole.Consumers ConsumeFunction.Bounded ∧
      whole.compile limit = .ok p ∧ q.Part whole) ∨
    ∃ (g : Grammar E) (name : String) (body : Pattern E),
      (∀ r ∈ g.productions, r.2.Consumers ConsumeFunction.Bounded) ∧ g.compile limit = .ok p ∧
        g.Reached name ∧ g.get? name = some body ∧ q.Part body

theorem Program.Contains.compiled (h : p.Contains q) : p.Compiled := by
  obtain ⟨limit, ⟨whole, bounded, compiled, -⟩ | ⟨g, name, body, bounded, compiled, -⟩⟩ := h
  · exact ⟨limit, .inl ⟨whole, bounded, compiled⟩⟩
  · exact ⟨limit, .inr ⟨g, bounded, compiled⟩⟩

theorem Program.Contains.placed (h : p.Contains q) : ∃ entry lo hi, q.Placed p entry lo hi := by
  obtain ⟨limit, ⟨whole, -, compiled, part⟩ | ⟨g, name, body, -, compiled, reached, known, part⟩⟩ := h
  · obtain ⟨hi, placed⟩ := Pattern.compile_placed compiled
    exact ⟨_, part.placed placed.placed⟩
  · obtain ⟨entry, names, laid⟩ := g.compile_laidOut compiled
    obtain ⟨lo, hi, body', comment, mid, known', -, -, -, placed, -⟩ :=
      laid.functions.mem ((laid.reached name).mpr reached)
    cases known.symm.trans known'
    exact ⟨entry, part.placed placed⟩

end

/-! ### Loops -/

/-- Where the body does not let control through, a loop without a check is left, or moves on before it jumps
back. -/
theorem Shape.loop_stalled {p : Program E} {greedy : Bool} {body : Shape} {lo hi : Nat}
    (h : body.Passes p false) (placed : loop p greedy (fun _ => body) lo hi) :
    lo < hi - 1 ∧ p.Stalled (hi - 1) (fun j _ => j = hi) lo := by
  obtain ⟨first, last, chosen, inner, -, rfl⟩ := placed
  rw [Nat.add_sub_cancel]
  have ordered := (h.closed _ _ inner).le
  have leaves : p.Stalled last (fun j _ => j = last + 1) (last + 1) := .exit rfl
  have entering := h.stalled first last inner last (fun j _ => j = last + 1) (Nat.le_refl _) nofun
  have rule := Passes.choice_rule chosen ordered leaves entering
  exact ⟨rule.1, .step rule⟩

/-! ### The empty word -/

theorem nil_mem_mul {l l' : Language E} : [] ∈ l * l' ↔ [] ∈ l ∧ [] ∈ l' := by
  simp [Language.mem_mul]

theorem nil_mem_powers {amount : Amount} {l : Language E} (ordered : amount.Ordered) :
    [] ∈ amount.powers l ↔ amount.least = 0 ∨ [] ∈ l := by
  rw [Amount.mem_powers]
  constructor
  · rintro ⟨k, least, -, power⟩
    cases k with
    | zero => exact .inl (Nat.le_zero.mp least)
    | succ k =>
      rw [pow_succ, nil_mem_mul] at power
      exact .inr power.2
  · rintro (none | empty)
    · exact ⟨0, Nat.le_of_eq none, fun _ _ => Nat.zero_le _, by simp⟩
    · refine ⟨amount.least, Nat.le_refl _, ordered, Language.mem_pow.mpr ?_⟩
      refine ⟨.replicate amount.least [], by simp, by simp, fun word member => ?_⟩
      rwa [List.eq_of_mem_replicate member]

namespace Pattern

mutual

/-- A regular pattern can match empty if and only if the empty word is in its language. -/
theorem nil_mem_language : (q : Pattern E) → q.Regular → q.Ordered →
    ([] ∈ q.language ↔ q.canMatchEmpty = true)
  | empty, _, _ => by simp [language, canMatchEmpty]
  | any, _, _ => ⟨fun ⟨_, eq⟩ => (nomatch eq), nofun⟩
  | element e, _, _ => by
    change [] = [e] ↔ false = true
    simp
  | literal elements, _, _ => by
    change [] = elements ↔ elements.isEmpty = true
    rw [List.isEmpty_iff, eq_comm]
  | predicate f, _, _ => ⟨fun ⟨_, _, eq⟩ => (nomatch eq), nofun⟩
  | concat parts, regular, ordered => nil_mem_languageOfSequence parts regular ordered
  | alternation branches, regular, ordered => nil_mem_languageOfAlternatives branches regular ordered
  | repetition amount _ body, regular, ordered => by
    rw [language, canMatchEmpty, nil_mem_powers ordered.1, Bool.or_eq_true, beq_iff_eq]
    by_cases none : amount.most = some 0
    · have least := Nat.le_zero.mp (ordered.1 0 none)
      simp only [least, true_or]
    · rw [nil_mem_language body regular.2 (ordered.2 none)]
  | capture _ _ body, regular, ordered => nil_mem_language body regular ordered

theorem nil_mem_languageOfSequence : (parts : List (Pattern E)) → AllRegular parts →
    AllOrdered parts → ([] ∈ languageOfSequence parts ↔ allCanMatchEmpty parts = true)
  | [], _, _ => by simp [languageOfSequence, allCanMatchEmpty]
  | q :: rest, regular, ordered => by
    rw [languageOfSequence, allCanMatchEmpty, nil_mem_mul, Bool.and_eq_true,
      nil_mem_language q regular.1 ordered.1,
      nil_mem_languageOfSequence rest regular.2 ordered.2]

theorem nil_mem_languageOfAlternatives : (branches : List (Pattern E)) → AllRegular branches →
    AllOrdered branches →
      ([] ∈ languageOfAlternatives branches ↔ anyCanMatchEmpty branches = true)
  | [], _, _ => by simp [languageOfAlternatives, anyCanMatchEmpty]
  | q :: rest, regular, ordered => by
    rw [languageOfAlternatives, anyCanMatchEmpty, Language.mem_add, Bool.or_eq_true,
      nil_mem_language q regular.1 ordered.1,
      nil_mem_languageOfAlternatives rest regular.2 ordered.2]

end

end Pattern

theorem MatchMode.takes_nil {l : Language E} {mode : MatchMode} : mode.Takes l [] ↔ [] ∈ l := by
  cases mode with
  | whole => rfl
  | anywhere => simp [Takes]

/-! ### Programs -/

section

variable [DecidableEq E] {p : Program E} {q : Pattern E}

/-- In every search with a compiled program that contains a pattern which cannot match empty, control gets
from the start to the end of its code only by moving on in the input, and so does each iteration of a loop
around it, which has no check. A regular pattern can match empty if and only if its program accepts the
empty range. -/
theorem stalls_only_where_empty [Spelled E] :
    (∀ (p : Program E) (q : Pattern E), p.Contains q → q.canMatchEmpty = false →
      (∃ entry lo hi, q.Placed p entry lo hi) ∧
      ∀ (input : Array E) range settings s, Search.prepare p input range settings = .ok s →
        (∀ n m, s.runFor n s.start = .next m → m.status = .inProgress →
          s.Path (s.pathFor n) m.config) ∧
        ∀ entry lo hi, (q.Placed p entry lo hi → s.Advances (fun _ => False) lo hi) ∧
          ∀ greedy, Shape.star p greedy q.canMatchEmpty (q.Placed p entry) lo hi →
            s.Advances (· = hi) lo (hi - 1)) ∧
    ∀ (p : Program E) (q : Pattern E) limit, q.compile limit = .ok p → q.Regular →
      ∀ (input : Array E) position mode, position ≤ input.size →
        (∃ answer, p.Answers input ⟨position, position⟩ mode answer) ∧
          (p.Accepts input ⟨position, position⟩ mode ↔ q.canMatchEmpty = true) := by
  constructor
  · intro p q contains consumes
    refine ⟨contains.placed, ?_⟩
    intro input range settings s prepared
    obtain ⟨rfl, start, stop⟩ := Search.prepare_spec prepared
    obtain ⟨callees, typed, -⟩ := contains.compiled.wellTyped
    refine ⟨fun n m => Search.runFor_path typed start stop, ?_⟩
    intro entry lo hi
    have passes : (q.Placed p entry).Passes p q.canMatchEmpty := q.placed_passes
    rw [consumes] at passes ⊢
    constructor
    · intro placed
      have stalled := passes.stalled lo hi placed hi (fun _ _ => False) (Nat.le_refl _) nofun
      exact stalled.search typed start stop id id
    · intro greedy placed
      obtain ⟨lt, stalled⟩ := Shape.loop_stalled passes placed
      exact stalled.search typed start stop (by omega) (by omega)
  · intro p q limit compiled regular input position mode inside
    let range : Span := ⟨position, position⟩
    have valid : range.start ≤ range.stop ∧ range.stop ≤ input.size := ⟨Nat.le_refl _, inside⟩
    refine ⟨Pattern.answers_of_regular compiled regular valid mode, ?_⟩
    rw [Pattern.accepts_iff_takes compiled regular valid mode, slice_self, MatchMode.takes_nil,
      Pattern.nil_mem_language q regular (Pattern.compile_ordered compiled)]

end

/-- The first alternative is given up, so that it is not on the path of the iteration. -/
theorem stalls_only_where_empty_loop :
    let body : Pattern Nat := .alternation [.element 1, .literal [2, 3]]
    let q : Pattern Nat := .repetition .zeroOrMore .greedy body
    ∃ (p : Program Nat) (s : Search Nat) (m : Machine) (newer : List Configuration) (c : Configuration),
      q.compile 100 = .ok p ∧ Search.prepare p #[2, 3, 1] ⟨0, 3⟩ {} = .ok s ∧
      s.runFor 5 s.start = .next m ∧ m.pc = ⟨6⟩ ∧ s.pathFor 5 = newer ++ [c] ∧ c.pc = ⟨0⟩ ∧
      c.position < m.position ∧ p.Answers #[] ⟨0, 0⟩ .whole (some ⟨⟨0, 0⟩, []⟩) ∧
      ∀ log, (Engine.findMatch ⟨p, {}⟩ #[] ⟨0, 0⟩ .whole).result log =
        .ok (.ok (some ⟨⟨0, 0⟩, []⟩)) := by
  intro body q
  let shows (s : Search Nat) : Bool :=
    (∀ i < s.program.code.size, s.program.operation? i = some .accept → i = 7) ∧
      (s.runFor 5 s.start).leadsTo fun m => m.status = .inProgress ∧ m.pc = ⟨6⟩ ∧
        m.callStack.items = [] ∧ (s.pathFor 5).all (fun c => c.pc ≠ ⟨7⟩) ∧
        (s.pathFor 5).getLast?.any fun c => c.pc = ⟨0⟩ ∧ c.callStack.items = []
  have facts : (q.compile 100).toOption.any (fun p => shows ⟨p, #[2, 3, 1], ⟨0, 3⟩, {}⟩) = true := by
    decide +kernel
  have takes : ∀ p ∈ (q.compile 100).toOption,
      let s : Search Nat := ⟨p, #[], ⟨0, 0⟩, { mode := .whole }⟩
      (s.runFor 100 s.start).leadsTo fun m =>
        m.status = .accepted ∧ m.exceeded = none ∧ m.position = 0 ∧ m.captures = [] := by decide +kernel
  obtain ⟨sound, regular⟩ := stalls_only_where_empty (E := Nat)
  cases compiled : q.compile 100 with
  | error e => rw [compiled] at facts; cases facts
  | ok p =>
    rw [compiled] at facts
    let s : Search Nat := ⟨p, #[2, 3, 1], ⟨0, 3⟩, {}⟩
    have prepared : Search.prepare p #[2, 3, 1] ⟨0, 3⟩ {} = .ok s := rfl
    have facts : shows s = true := facts
    obtain ⟨accepts, runs⟩ := of_decide_eq_true facts
    obtain ⟨m, ran, live, there, own, apart, begins⟩ := Step.exists_of_leadsTo runs
    obtain ⟨c, last, first⟩ := (Option.any_eq_true _ _).mp begins
    obtain ⟨began, own'⟩ := of_decide_eq_true first
    obtain ⟨newer, path⟩ := List.getLast?_eq_some_iff.mp last
    have contains : p.Contains body :=
      ⟨100, .inl ⟨q, ⟨trivial, trivial, trivial⟩, compiled, .repetition nofun .self⟩⟩
    obtain ⟨-, searches⟩ := sound p body contains rfl
    obtain ⟨-, advances⟩ := searches #[2, 3, 1] ⟨0, 3⟩ {} s prepared
    obtain ⟨hi, placed⟩ := Pattern.compile_placed compiled
    have inside : hi < p.code.size := by
      obtain ⟨i, known, -⟩ := Option.bind_eq_some_iff.mp placed.accepts
      exact (Array.getElem?_eq_some_iff.mp known).1
    obtain rfl : hi = 7 := accepts hi inside placed.accepts
    obtain ⟨_, rfl, star⟩ := placed.placed
    have moved := (advances (fun _ => none) 0 7).2 true star 5 m ran live (congrArg (·.index) there)
      newer c [] path (congrArg (·.index) began) (Stack.ext (own'.trans own.symm)) ?_
    · obtain ⟨-, same⟩ := regular p q 100 compiled ⟨nofun, trivial, trivial, trivial⟩ #[] 0 .whole
        (Nat.le_refl 0)
      obtain ⟨empty, answers⟩ := same.mpr rfl
      obtain ⟨m', ran', accepted, clear, position, captures⟩ :=
        Step.exists_of_leadsTo (takes p (by rw [compiled]; rfl))
      have found := answers.accepted {} (by decide) ran' accepted clear
      rw [position, captures] at found
      obtain ⟨here, found⟩ := found
      rw [here] at answers found
      exact ⟨p, s, m, newer, c, rfl, prepared, ran, there, path, began, moved, answers, found⟩
    · intro c' member _ there'
      have member : c' ∈ s.pathFor 5 := path ▸ List.mem_append_left [c] member
      exact of_decide_eq_true (List.all_eq_true.mp apart c' member) (congrArg Handle.mk there')

end PatternMachine

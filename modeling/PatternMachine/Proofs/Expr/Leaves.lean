import PatternMachine.Proofs.Expr.Classes
import PatternMachine.Proofs.Outcome.Slice
import PatternMachine.Proofs.Text.Utf8

/-! What the leaves of an expression mean, read directly: literals by their bytes, classes by their
intervals, assertions by the positions that they look at. Their patterns mean the same. -/
namespace PatternMachine

/-! ### Assertions -/

namespace Look

variable (input : Array Char) (last position : Nat)

/-- A character of a word stands right before the position. -/
def wordBefore (isWord : Char → Bool) : Bool :=
  0 < position && (input[position - 1]?).any isWord

/-- A character of a word stands right behind the position, which is not the last one. -/
def wordAfter (isWord : Char → Bool) : Bool :=
  position < last && (input[position]?).any isWord

/-- Whether an assertion holds at a position; `last` is where the searched range ends. -/
def holdsAt : Look → Bool
  | start => position == 0
  | stop => position == last
  | startLF => position == 0 || input[position - 1]? == some '\n'
  | endLF => position == last || input[position]? == some '\n'
  | startCRLF =>
    position == 0 || input[position - 1]? == some '\n' ||
      (input[position - 1]? == some '\r' && (position == last || input[position]? != some '\n'))
  | endCRLF =>
    position == last || input[position]? == some '\r' ||
      (input[position]? == some '\n' && (position == 0 || input[position - 1]? != some '\r'))
  | wordAscii => wordBefore input position isWordAscii != wordAfter input last position isWordAscii
  | wordAsciiNegate =>
    wordBefore input position isWordAscii == wordAfter input last position isWordAscii
  | wordUnicode =>
    wordBefore input position isWordUnicode != wordAfter input last position isWordUnicode
  | wordUnicodeNegate =>
    wordBefore input position isWordUnicode == wordAfter input last position isWordUnicode
  | _ => false

/-- The assertions that there are patterns for. -/
def supported : List Look :=
  [start, stop, startLF, endLF, startCRLF, endCRLF, wordAscii, wordAsciiNegate, wordUnicode,
    wordUnicodeNegate]

theorem pattern?_isSome (l : Look) : l.pattern?.isSome ↔ l ∈ supported := by
  cases l <;> decide

variable {input} {range : Span} {m : Moment}

theorem between_outcomes (holds : Option Char → Option Char → Bool) :
    (between holds).outcomes input range m =
      if holds (before? input ⟨m.position, range.stop⟩) (after? input ⟨m.position, range.stop⟩)
      then [m] else [] := by
  simp only [between, Pattern.outcomes_consumer, Outcomes.consumer]
  split
  next nothing =>
    split at nothing
    · cases nothing
    next fails => rw [if_neg fails]
  next position found =>
    split at found
    next passes => cases found; rw [if_pos passes]
    · cases found

/-- Before a position there is the start of the input or a character. -/
theorem before?_cases (range : Span) (inside : m.position ≤ input.size) :
    (m.position = 0 ∧ before? input ⟨m.position, range.stop⟩ = none) ∨
      ∃ c, 0 < m.position ∧ input[m.position - 1]? = some c ∧
        before? input ⟨m.position, range.stop⟩ = some c := by
  rcases Nat.eq_zero_or_pos m.position with first | later
  · exact .inl ⟨first, if_pos first⟩
  · have bound : m.position - 1 < input.size := by omega
    have known := Array.getElem?_eq_getElem bound
    exact .inr ⟨_, later, known, (if_neg (by simp only; omega)).trans known⟩

/-- Behind a position there is the end of the range or a character. -/
theorem after?_cases (inside : m.position ≤ range.stop) (valid : range.stop ≤ input.size) :
    (m.position = range.stop ∧ after? input ⟨m.position, range.stop⟩ = none) ∨
      ∃ c, m.position < range.stop ∧ input[m.position]? = some c ∧
        after? input ⟨m.position, range.stop⟩ = some c := by
  rcases Nat.eq_or_lt_of_le inside with last | earlier
  · exact .inl ⟨last, if_neg (by simp only; omega)⟩
  · have known := Array.getElem?_eq_getElem (Nat.lt_of_lt_of_le earlier valid)
    exact .inr ⟨_, earlier, known, (if_pos earlier).trans known⟩

/-- The pattern of an assertion stays where the assertion holds. -/
theorem pattern?_outcomes {l : Look} {q : Pattern Char} (known : l.pattern? = some q)
    (inside : m.position ≤ range.stop) (valid : range.stop ≤ input.size) :
    q.outcomes input range m = if l.holdsAt input range.stop m.position then [m] else [] := by
  have before := before?_cases range (Nat.le_trans inside valid)
  have after := after?_cases inside valid
  cases l <;> simp only [pattern?, reduceCtorEq, Option.some.injEq] at known <;> subst known
  case start => simp [Pattern.outcomes_anchor, Outcomes.anchor, holdsAt]
  case stop => simp [Pattern.outcomes_anchor, Outcomes.anchor, holdsAt]
  all_goals
    simp only [boundary, noBoundary, between_outcomes, holdsAt, wordBefore, wordAfter]
    rcases before with ⟨first, eq⟩ | ⟨c, later, char, eq⟩ <;>
      rcases after with ⟨last, eq'⟩ | ⟨d, earlier, char', eq'⟩
    all_goals simp_all [Nat.ne_of_gt, Nat.ne_of_lt]

end Look

/-! ### Literals and classes -/

namespace Outcomes

variable {input : Array Char} {range : Span}

/-- The characters that come next, if their bytes are the given ones. -/
def encoded (input : Array Char) (range : Span) (bytes : List UInt8) : Outcomes := fun m =>
  ((List.range (range.stop + 1 - m.position)).filter fun k =>
    Utf8.encode (slice input m.position (m.position + k)) = bytes).map fun k =>
      { m with position := m.position + k }

theorem filter_range {n a : Nat} {p : Nat → Bool} (unique : ∀ k < n, p k = true → k = a) :
    (List.range n).filter p = if a < n ∧ p a = true then [a] else [] := by
  induction n with
  | zero => simp
  | succ n ih =>
    rw [List.range_succ, List.filter_append, ih fun k below => unique k (Nat.lt_succ_of_lt below),
      List.filter_cons, List.filter_nil]
    by_cases last : p n = true
    · obtain rfl := unique n (Nat.lt_succ_self n) last
      simp [last]
    · rw [if_neg last, List.append_nil]
      by_cases here : a = n
      · subst here
        simp [last]
      · have same : a < n + 1 ↔ a < n := by omega
        simp only [same]

/-- At most one stretch of the input has the bytes of a text, and that is the text. -/
theorem literal_encoded (valid : range.stop ≤ input.size) {m : Moment}
    (inside : m.position ≤ range.stop) (text : List Char) :
    literal input range text m = encoded input range (Utf8.encode text) m := by
  have unique : ∀ k < range.stop + 1 - m.position,
      decide (Utf8.encode (slice input m.position (m.position + k)) = Utf8.encode text) = true →
        k = text.length := by
    intro k below same
    have text_eq := Utf8.encode_injective (of_decide_eq_true same)
    have length := congrArg List.length text_eq
    rw [length_slice (by omega)] at length
    omega
  have fits : text.length < range.stop + 1 - m.position ↔ m.position + text.length ≤ range.stop := by
    omega
  have same : Utf8.encode (slice input m.position (m.position + text.length)) = Utf8.encode text ↔
      slice input m.position (m.position + text.length) = text :=
    ⟨Utf8.encode_injective, congrArg Utf8.encode⟩
  rw [literal_eq valid text m inside, encoded, filter_range unique]
  simp only [fits, same, decide_eq_true_eq]
  split <;> rfl

/-- Every character is in the interval of all code points. -/
theorem any_eq_single (valid : range.stop ≤ input.size) (holds : Char → Bool)
    (all : ∀ c, holds c = true) (m : Moment) : any range m = single input range holds m := by
  unfold any single next?
  by_cases below : m.position < range.stop
  · have known := Array.getElem?_eq_getElem (Nat.lt_of_lt_of_le below valid)
    rw [if_pos below, if_pos below, known, Option.any_some, if_pos (all _)]
  · rw [if_neg below, if_neg below]
    rfl

end Outcomes

/-- A character is in a class if it is in one of the intervals. -/
def ClassSet.accepts (set : ClassSet) (c : Char) : Bool :=
  set.codes.intervals.any (·.contains c.toNat)

theorem ClassSet.pattern_outcomes {set : ClassSet} (ascending : set.codes.Ascending)
    {input : Array Char} {range : Span} (valid : range.stop ≤ input.size) (m : Moment) :
    set.pattern.outcomes input range m = Outcomes.single input range set.accepts m := by
  unfold ClassSet.pattern
  split
  next full =>
    refine Outcomes.any_eq_single valid _ (fun c => ?_) m
    have bound := Utf8.scalar_lt c
    have small : c.toNat < 0x110000 := bound
    simp only [ClassSet.accepts, full, CodeSet.full, Alphabet.scalars, List.any_cons, List.any_nil,
      Interval.contains, Bool.or_false, Bool.and_eq_true, decide_eq_true_eq]
    omega
  · have same : (fun c : Char => bisect (Interval.order c.toNat) set.codes.intervals.toArray 0
        set.codes.intervals.toArray.size) = set.accepts :=
      funext fun c => ascending.bisect_eq c.toNat
    dsimp only
    rw [same]
    rfl

end PatternMachine

import PatternMachine.Proofs.Expr.Leaves
import PatternMachine.Proofs.Outcome.Agreement
import PatternMachine.Proofs.Regex.Lowering

/-! What an expression means, read directly. Its pattern means the same, and there is a pattern unless the
expression has a leaf that is not supported. -/
namespace PatternMachine.Expr

/-! ### Leaves -/

/-- The parts of an expression that there may be no pattern for. -/
inductive Leaf where
  | text (bytes : List UInt8)
  | look (l : Look)

/-- There are patterns for the encodings of texts and for some of the assertions. -/
def Leaf.Supported : Leaf → Prop
  | text bytes => ∃ characters, Utf8.encode characters = bytes
  | look l => l ∈ Look.supported

/-- What is said of a leaf that there is no pattern for. -/
def Leaf.complaint : Leaf → Unsupported
  | text _ => .malformedText
  | look l => .assertion l

mutual

/-- The literals and assertions of an expression, from left to right. -/
def leaves : Expr → List Leaf
  | literal bytes => [.text bytes]
  | look l => [.look l]
  | repetition _ _ _ body => body.leaves
  | capture _ _ body => body.leaves
  | concat parts => leavesOfAll parts
  | alternation branches => leavesOfAll branches
  | empty => []
  | oneOf _ => []

def leavesOfAll : List Expr → List Leaf
  | [] => []
  | e :: rest => e.leaves ++ leavesOfAll rest

end

mutual

/-- Classes are in order, and groups are numbered from one. -/
def WellFormed : Expr → Prop
  | oneOf set => set.codes.Ascending
  | capture index _ body => 1 ≤ index ∧ body.WellFormed
  | repetition _ _ _ body => body.WellFormed
  | concat parts => AllWellFormed parts
  | alternation branches => AllWellFormed branches
  | empty => True
  | literal _ => True
  | look _ => True

def AllWellFormed : List Expr → Prop
  | [] => True
  | e :: rest => e.WellFormed ∧ AllWellFormed rest

end

/-! ### Meaning -/

section

variable (input : Array Char) (range : Span)

mutual

/-- The ways in which an expression can match. -/
def outcomes : Expr → Outcomes
  | empty => fun m => [m]
  | literal bytes => Outcomes.encoded input range bytes
  | oneOf set => Outcomes.single input range set.accepts
  | look l => fun m => if l.holdsAt input range.stop m.position then [m] else []
  | repetition least most greedy body => Outcomes.repeated range least most greedy body.outcomes
  | capture index _ body => Outcomes.capture (index - 1) body.outcomes
  | concat parts => sequenceOutcomes parts
  | alternation branches => alternativeOutcomes branches

def sequenceOutcomes : List Expr → Outcomes
  | [], m => [m]
  | e :: rest, m => (e.outcomes m).flatMap (sequenceOutcomes rest)

def alternativeOutcomes : List Expr → Outcomes
  | [], _ => []
  | e :: rest, m => e.outcomes m ++ alternativeOutcomes rest m

end

end

/-! ### Errors -/

/-- A translation goes wrong at the first of the leaves that is not supported, and nowhere else. -/
def StopsAtFirst {α : Type} (leaves : List Leaf) (result : Except Rejection α) : Prop :=
  (∃ a, result = .ok a ∧ ∀ leaf ∈ leaves, leaf.Supported) ∨
    ∃ before leaf after, leaves = before ++ leaf :: after ∧ (∀ other ∈ before, other.Supported) ∧
      ¬leaf.Supported ∧ result = .error (.error (.unsupported leaf.complaint))

namespace StopsAtFirst

variable {α β : Type} {leaves leaves' : List Leaf} {result : Except Rejection α}

theorem ok (a : α) : StopsAtFirst [] (.ok a) := .inl ⟨a, rfl, nofun⟩

theorem andThen {f : α → Except Rejection β} (first : StopsAtFirst leaves result)
    (second : ∀ a, result = .ok a → StopsAtFirst leaves' (f a)) :
    StopsAtFirst (leaves ++ leaves') (result >>= f) := by
  rcases first with ⟨a, rfl, supported⟩ | ⟨before, leaf, after, rfl, passed, refused, rfl⟩
  · rcases second a rfl with ⟨b, eq, supported'⟩ | ⟨before, leaf, after, rfl, passed, refused, eq⟩
    · refine .inl ⟨b, eq, fun leaf member => ?_⟩
      rcases List.mem_append.mp member with member | member
      · exact supported leaf member
      · exact supported' leaf member
    · refine .inr ⟨leaves ++ before, leaf, after, by rw [List.append_assoc], fun other member => ?_,
        refused, eq⟩
      rcases List.mem_append.mp member with member | member
      · exact supported other member
      · exact passed other member
  · exact .inr ⟨before, leaf, after ++ leaves', by simp, passed, refused, rfl⟩

theorem map {f : α → β} (h : StopsAtFirst leaves result) :
    StopsAtFirst leaves (result >>= fun a => .ok (f a)) := by
  have both : StopsAtFirst (leaves ++ []) (result >>= fun a => .ok (f a)) :=
    h.andThen fun a _ => .ok (f a)
  rwa [List.append_nil] at both

end StopsAtFirst

theorem textPattern_stops (bytes : List UInt8) : StopsAtFirst [.text bytes] (textPattern bytes) := by
  unfold textPattern
  cases decoded : Utf8.decode? bytes with
  | none =>
    refine .inr ⟨[], .text bytes, [], rfl, nofun, ?_, rfl⟩
    rintro ⟨text, encoded⟩
    rw [Utf8.decode?_eq_some.mpr encoded] at decoded
    cases decoded
  | some text =>
    have supported : ∀ leaf ∈ [Leaf.text bytes], leaf.Supported := by
      intro leaf member
      cases List.mem_singleton.mp member
      exact ⟨text, Utf8.decode?_eq_some.mp decoded⟩
    rcases text with _ | ⟨c, _ | ⟨d, rest⟩⟩ <;> exact .inl ⟨_, rfl, supported⟩

theorem lookPattern_stops (l : Look) : StopsAtFirst [.look l] (lookPattern l) := by
  have known := l.pattern?_isSome
  unfold lookPattern
  cases pattern : l.pattern? with
  | none =>
    rw [pattern] at known
    exact .inr ⟨[], .look l, [], rfl, nofun, fun supported => absurd (known.mpr supported) Bool.false_ne_true,
      rfl⟩
  | some q =>
    rw [pattern] at known
    refine .inl ⟨q, rfl, fun leaf member => ?_⟩
    cases List.mem_singleton.mp member
    exact known.mp rfl

mutual

theorem translated_stops (e : Expr) (formed : e.WellFormed) : StopsAtFirst e.leaves e.translated := by
  cases e with
  | empty => exact .ok _
  | literal bytes => exact textPattern_stops bytes
  | oneOf set => exact .ok _
  | look l => exact lookPattern_stops l
  | repetition least most greedy body => exact (translated_stops body formed).map
  | capture index name body =>
    obtain ⟨positive, formed⟩ := formed
    obtain ⟨index, rfl⟩ := Nat.exists_eq_add_one.mpr positive
    exact (translated_stops body formed).map
  | concat parts => exact (translatedAll_stops parts formed).map
  | alternation branches => exact (translatedAll_stops branches formed).map

theorem translatedAll_stops (parts : List Expr) (formed : AllWellFormed parts) :
    StopsAtFirst (leavesOfAll parts) (translatedAll parts) := by
  cases parts with
  | nil => exact .ok _
  | cons e rest =>
    exact (translated_stops e formed.1).andThen fun q _ => (translatedAll_stops rest formed.2).map

end

/-! ### The same outcomes -/

theorem amount_least (least : Nat) (most : Option Nat) : (amount least most).least = least := by
  unfold amount
  split <;> try rfl
  split <;> rfl

theorem amount_most (least : Nat) (most : Option Nat) : (amount least most).most = most := by
  unfold amount
  split <;> try rfl
  split
  next same => exact congrArg some same
  · rfl

section

variable {input : Array Char} {range : Span}

theorem textPattern_agrees (valid : range.stop ≤ input.size) {bytes : List UInt8} {q : Pattern Char}
    (known : textPattern bytes = .ok q) :
    Outcomes.Agree range.stop (q.outcomes input range) (Outcomes.encoded input range bytes) := by
  intro m inside
  unfold textPattern at known
  have literal {text : List Char} (decoded : Utf8.decode? bytes = some text) :
      Outcomes.literal input range text m = Outcomes.encoded input range bytes m := by
    rw [← Utf8.decode?_eq_some.mp decoded]
    exact Outcomes.literal_encoded valid inside text
  split at known
  · cases known
  next c decoded =>
    cases known
    -- A text of one character is an element, which asks for the same.
    rw [← literal decoded]
    exact (List.flatMap_singleton' _).symm
  next text _ decoded =>
    cases known
    exact literal decoded

mutual

theorem translated_agrees (e : Expr) (formed : e.WellFormed) (valid : range.stop ≤ input.size)
    {q : Pattern Char} (known : e.translated = .ok q) :
    Outcomes.Agree range.stop (q.outcomes input range) (e.outcomes input range) := by
  cases e with
  | empty => cases known; exact fun m _ => rfl
  | literal bytes => exact textPattern_agrees valid known
  | oneOf set => cases known; exact fun m _ => set.pattern_outcomes formed valid m
  | look l =>
    intro m inside
    have known : lookPattern l = .ok q := known
    unfold lookPattern at known
    split at known
    next pattern => cases known; exact Look.pattern?_outcomes pattern inside valid
    · cases known
  | repetition least most greedy body =>
    obtain ⟨inner, lowered, known⟩ := bind_eq_ok.mp known
    cases known
    have same := translated_agrees body formed valid lowered
    have stays := Pattern.outcomes_stay (translated_bounded body inner lowered) valid
    have repeated := same.repeated stays (amount least most).least (amount least most).most greedy
    rw [amount_least, amount_most] at repeated
    intro m inside
    rw [outcomes, ← repeated m inside]
    cases greedy <;>
      simp only [Pattern.outcomes, Outcomes.repetition, amount_least, amount_most, if_true, if_false,
        Bool.false_eq_true]
  | capture index name body =>
    obtain ⟨positive, formed⟩ := formed
    obtain ⟨index, rfl⟩ := Nat.exists_eq_add_one.mpr positive
    obtain ⟨inner, lowered, known⟩ := bind_eq_ok.mp known
    cases known
    intro m inside
    exact congrArg (List.map _) (translated_agrees body formed valid lowered m inside)
  | concat parts =>
    obtain ⟨inner, lowered, known⟩ := bind_eq_ok.mp known
    cases known
    exact sequence_agrees parts formed valid lowered
  | alternation branches =>
    obtain ⟨inner, lowered, known⟩ := bind_eq_ok.mp known
    cases known
    exact alternatives_agree branches formed valid lowered

theorem sequence_agrees (parts : List Expr) (formed : AllWellFormed parts)
    (valid : range.stop ≤ input.size) {qs : List (Pattern Char)}
    (known : translatedAll parts = .ok qs) :
    Outcomes.Agree range.stop (Pattern.sequence input range qs)
      (sequenceOutcomes input range parts) := by
  cases parts with
  | nil => cases known; exact fun m _ => rfl
  | cons e rest =>
    obtain ⟨q, first, known⟩ := bind_eq_ok.mp known
    obtain ⟨qs, others, known⟩ := bind_eq_ok.mp known
    cases known
    have same := translated_agrees e formed.1 valid first
    have stays := Pattern.outcomes_stay (translated_bounded e q first) valid
    exact fun m inside => same.andThen stays (sequence_agrees rest formed.2 valid others) inside

theorem alternatives_agree (branches : List Expr) (formed : AllWellFormed branches)
    (valid : range.stop ≤ input.size) {qs : List (Pattern Char)}
    (known : translatedAll branches = .ok qs) :
    Outcomes.Agree range.stop (Pattern.alternatives input range qs)
      (alternativeOutcomes input range branches) := by
  cases branches with
  | nil => cases known; exact fun m _ => rfl
  | cons e rest =>
    obtain ⟨q, first, known⟩ := bind_eq_ok.mp known
    obtain ⟨qs, others, known⟩ := bind_eq_ok.mp known
    cases known
    intro m inside
    rw [Pattern.alternatives, alternativeOutcomes, translated_agrees e formed.1 valid first m inside,
      alternatives_agree rest formed.2 valid others m inside]

end

end

/-! ### The result -/

end PatternMachine.Expr

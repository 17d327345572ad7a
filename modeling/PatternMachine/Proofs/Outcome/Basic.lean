import PatternMachine.Engine
import PatternMachine.Pattern.Basic

/-! What a pattern means: from a position and the captures made so far, the ordered list of ways in which
it can match. The first one is preferred, and the others are what backtracking finds later. -/
namespace PatternMachine

/-- How far a match has come, and what its groups hold. -/
structure Moment where
  position : Nat
  captures : List (Option Span)
  deriving DecidableEq, Repr

def Moment.store (m : Moment) (index : Nat) (value : Span) : Moment :=
  { m with captures := m.captures.set index (some value) }

abbrev Outcomes := Moment → List Moment

namespace Outcomes

variable {E : Type} (input : Array E) (range : Span)

/-- The element at a position of the range. -/
def next? (position : Nat) : Option E :=
  if position < range.stop then input[position]? else none

def single (holds : E → Bool) : Outcomes := fun m =>
  if (next? input range m.position).any holds then [{ m with position := m.position + 1 }] else []

def any : Outcomes := fun m =>
  if m.position < range.stop then [{ m with position := m.position + 1 }] else []

def literal [DecidableEq E] : List E → Outcomes
  | [], m => [m]
  | e :: rest, m => (single input range (· = e) m).flatMap (literal rest)

def consumer (f : ConsumeFunction E) : Outcomes := fun m =>
  match f input ⟨m.position, range.stop⟩ with
  | none => []
  | some position => [{ m with position }]

/-- One more before stopping, or after. -/
def prefer (greedy : Bool) (more : List Moment) (m : Moment) : List Moment :=
  if greedy then more ++ [m] else m :: more

def times (body : Outcomes) : Nat → Outcomes
  | 0, m => [m]
  | n + 1, m => (body m).flatMap (times body n)

def upTo (greedy : Bool) (body : Outcomes) : Nat → Outcomes
  | 0, m => [m]
  | n + 1, m => prefer greedy ((body m).flatMap (upTo greedy body n)) m

/-- Iterations up to the end `stop` of the range. One that ends where it began stops the loop. -/
def star (stop : Nat) (greedy : Bool) (body : Outcomes) (m : Moment) : List Moment :=
  prefer greedy ((body m).flatMap fun m' =>
    if m.position < m'.position ∧ m'.position ≤ stop then star stop greedy body m' else [m']) m
termination_by stop - m.position

def repeated (least : Nat) (most : Option Nat) (greedy : Bool) (body : Outcomes) : Outcomes :=
  fun m => (times body least m).flatMap <|
    match most with
    | none => star range.stop greedy body
    | some most => upTo greedy body (most - least)

/-- Only the first way counts. -/
def atomic (body : Outcomes) : Outcomes := fun m => (body m).take 1

def repetition (amount : Amount) (preference : Preference) (body : Outcomes) : Outcomes :=
  match preference with
  | .greedy => repeated range amount.least amount.most true body
  | .reluctant => repeated range amount.least amount.most false body
  | .possessive => atomic (repeated range amount.least amount.most true body)

def capture (index : Nat) (body : Outcomes) : Outcomes := fun m =>
  (body m).map fun m' => m'.store index ⟨m.position, m'.position⟩

/-- Nothing that the body does is kept. -/
def lookahead (kind : Lookahead) (body : Outcomes) : Outcomes := fun m =>
  match kind with
  | .positive => if (body m).isEmpty then [] else [m]
  | .negative => if (body m).isEmpty then [m] else []

def anchor (a : Anchor) : Outcomes := fun m =>
  match a with
  | .start => if m.position = 0 then [m] else []
  | .stop => if m.position = range.stop then [m] else []

def backreference [DecidableEq E] (index : Nat) : Outcomes := fun m =>
  match m.captures[index]?.join with
  | none => []
  | some captured =>
    let position := m.position + captured.length
    if position ≤ range.stop ∧
        input.extract captured.start captured.stop = input.extract m.position position then
      [{ m with position }]
    else []

end Outcomes

namespace Pattern

variable {E : Type} [DecidableEq E] (input : Array E) (range : Span)

mutual

/-- The ways in which a pattern without references can match. -/
def outcomes : Pattern E → Outcomes
  | empty => fun m => [m]
  | any => Outcomes.any range
  | element e => Outcomes.single input range (· = e)
  | literal elements => Outcomes.literal input range elements
  | predicate p => Outcomes.single input range p
  | consumer f => Outcomes.consumer input range f
  | concat parts => sequence parts
  | alternation branches => alternatives branches
  | repetition amount preference body => Outcomes.repetition range amount preference body.outcomes
  | capture index _ body => Outcomes.capture index body.outcomes
  | reference _ => fun _ => []
  | lookahead kind body => Outcomes.lookahead kind body.outcomes
  | atomic body => Outcomes.atomic body.outcomes
  | anchor a => Outcomes.anchor range a
  | backreference index => Outcomes.backreference input range index

def sequence : List (Pattern E) → Outcomes
  | [], m => [m]
  | q :: rest, m => (q.outcomes m).flatMap (sequence rest)

def alternatives : List (Pattern E) → Outcomes
  | [], _ => []
  | q :: rest, m => q.outcomes m ++ alternatives rest m

end

theorem outcomes_anchor (a : Anchor) : (anchor a).outcomes input range = Outcomes.anchor range a := by
  rw [outcomes]

theorem outcomes_consumer (f : ConsumeFunction E) :
    (consumer f).outcomes input range = Outcomes.consumer input range f := by
  rw [outcomes]

/-- The first way to match at the start of the range, in whole mode the first one that ends where the
range ends. -/
def firstOutcome (q : Pattern E) (mode : MatchMode) : Option Moment :=
  (q.outcomes input range ⟨range.start, .replicate q.captureCount none⟩).find? fun m =>
    mode = .anywhere ∨ m.position = range.stop

/-- The match that this outcome is. -/
def firstMatch (q : Pattern E) (mode : MatchMode) : Option Match :=
  (q.firstOutcome input range mode).map fun m => ⟨⟨range.start, m.position⟩, m.captures⟩

end Pattern

end PatternMachine

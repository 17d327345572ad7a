import PatternMachine.Program.Basic

/-!
# Patterns

A pattern describes sequences of elements of any type. References to other patterns get their
meaning from a grammar.
-/

namespace PatternMachine

/-- How often the body of a repetition takes part. -/
inductive Amount where
  | zeroOrMore
  | oneOrMore
  | zeroOrOne
  | exactly (n : Nat)
  | nOrMore (n : Nat)
  | upTo (n : Nat)
  | range (least most : Nat)
  deriving DecidableEq, Repr

namespace Amount

def least : Amount → Nat
  | zeroOrMore => 0
  | oneOrMore => 1
  | zeroOrOne => 0
  | exactly n => n
  | nOrMore n => n
  | upTo _ => 0
  | range n _ => n

/-- The bound from above, if there is one. -/
def most : Amount → Option Nat
  | zeroOrMore => none
  | oneOrMore => none
  | zeroOrOne => some 1
  | exactly n => some n
  | nOrMore _ => none
  | upTo n => some n
  | range _ n => some n

end Amount

/-- Which of the possible numbers of repetitions comes first. A possessive repetition is a greedy
one that never gives anything back. -/
inductive Preference where
  | greedy
  | reluctant
  | possessive
  deriving DecidableEq, Repr

/-- An assertion about what follows. -/
inductive Lookahead where
  | positive
  | negative
  deriving DecidableEq, Repr

/-- An assertion about the position itself. The end is that of the searched range, the start that of
the whole input. -/
inductive Anchor where
  | start
  | stop
  deriving DecidableEq, Repr

/-- Consumes nothing, and only at the start of the input. -/
def Pattern.startOfInput {E : Type} : ConsumeFunction E :=
  fun _ rest => if rest.start = 0 then some rest.start else none

inductive Pattern (E : Type) where
  | empty
  | any
  | element (e : E)
  | literal (elements : List E)
  | predicate (p : E → Bool)
  | consumer (f : ConsumeFunction E)
  | concat (parts : List (Pattern E))
  | alternation (branches : List (Pattern E))
  | repetition (amount : Amount) (preference : Preference) (body : Pattern E)
  | capture (index : Nat) (name : Option String) (body : Pattern E)
  | reference (name : String)
  | lookahead (kind : Lookahead) (body : Pattern E)
  | atomic (body : Pattern E)
  | anchor (a : Anchor)
  | backreference (index : Nat)

namespace Pattern

variable {E : Type}

mutual

/-- May the pattern match without consuming anything? Consumers, references and backreferences are
taken to be able to. -/
def canMatchEmpty : Pattern E → Bool
  | empty => true
  | any => false
  | element _ => false
  | literal elements => elements.isEmpty
  | predicate _ => false
  | consumer _ => true
  | concat parts => allCanMatchEmpty parts
  | alternation branches => anyCanMatchEmpty branches
  | repetition amount _ body => amount.least == 0 || body.canMatchEmpty
  | capture _ _ body => body.canMatchEmpty
  | reference _ => true
  | lookahead _ _ => true
  | atomic body => body.canMatchEmpty
  | anchor _ => true
  | backreference _ => true

def allCanMatchEmpty : List (Pattern E) → Bool
  | [] => true
  | p :: rest => p.canMatchEmpty && allCanMatchEmpty rest

def anyCanMatchEmpty : List (Pattern E) → Bool
  | [] => false
  | p :: rest => p.canMatchEmpty || anyCanMatchEmpty rest

end

mutual

/-- One more than the largest index of a capture group, and zero without groups. -/
def captureCount : Pattern E → Nat
  | concat parts => captureCounts parts
  | alternation branches => captureCounts branches
  | repetition _ _ body => body.captureCount
  | capture index _ body => max (index + 1) body.captureCount
  | lookahead _ body => body.captureCount
  | atomic body => body.captureCount
  | empty => 0
  | any => 0
  | element _ => 0
  | literal _ => 0
  | predicate _ => 0
  | consumer _ => 0
  | reference _ => 0
  | anchor _ => 0
  | backreference _ => 0

def captureCounts : List (Pattern E) → Nat
  | [] => 0
  | p :: rest => max p.captureCount (captureCounts rest)

end

end Pattern

end PatternMachine

import Mathlib.Computability.Language
import PatternMachine.Pattern.Basic

/-! The language of a pattern, in which neither the order of alternatives nor the preference of a
repetition plays a part. -/
namespace PatternMachine

variable {E : Type}

/-- Concatenations of so many words as the amount allows. -/
def Amount.powers (amount : Amount) (l : Language E) : Language E :=
  {word | ∃ k, amount.least ≤ k ∧ (∀ most, amount.most = some most → k ≤ most) ∧ word ∈ l ^ k}

theorem Amount.mem_powers {amount : Amount} {l : Language E} {word : List E} :
    word ∈ amount.powers l ↔
      ∃ k, amount.least ≤ k ∧ (∀ most, amount.most = some most → k ≤ most) ∧ word ∈ l ^ k := .rfl

theorem Amount.mem_upTo_powers {n : Nat} {l : Language E} {word : List E} :
    word ∈ (Amount.upTo n).powers l ↔ ∃ k, k ≤ n ∧ word ∈ l ^ k := by
  simp [mem_powers, least, most]

namespace Pattern

mutual

/-- The pattern is built from elements, predicates, sequences, alternations, groups, and greedy and
reluctant repetitions. -/
def Regular : Pattern E → Prop
  | empty | any | element _ | literal _ | predicate _ => True
  | concat parts => AllRegular parts
  | alternation branches => AllRegular branches
  | repetition _ preference body => preference ≠ .possessive ∧ body.Regular
  | capture _ _ body => body.Regular
  | consumer _ | reference _ | lookahead _ _ | atomic _ | anchor _ | backreference _ => False

def AllRegular : List (Pattern E) → Prop
  | [] => True
  | q :: rest => q.Regular ∧ AllRegular rest

end

mutual

/-- The words of a regular pattern. -/
def language : Pattern E → Language E
  | empty => 1
  | any => {word | ∃ e, word = [e]}
  | element e => {[e]}
  | literal elements => {elements}
  | predicate p => {word | ∃ e, p e ∧ word = [e]}
  | concat parts => languageOfSequence parts
  | alternation branches => languageOfAlternatives branches
  | repetition amount _ body => amount.powers body.language
  | capture _ _ body => body.language
  | consumer _ | reference _ | lookahead _ _ | atomic _ | anchor _ | backreference _ => 0

def languageOfSequence : List (Pattern E) → Language E
  | [] => 1
  | q :: rest => q.language * languageOfSequence rest

def languageOfAlternatives : List (Pattern E) → Language E
  | [] => 0
  | q :: rest => q.language + languageOfAlternatives rest

end

end Pattern

end PatternMachine

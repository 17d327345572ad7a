import PatternMachine.CodeSet
import PatternMachine.Expr.Look

/-!
# Expressions

What a regular expression means, free of its notation: literals are bytes, classes are sets, and
options such as ignoring case have been applied.
-/

namespace PatternMachine

/-- A class of characters or of single bytes. -/
inductive ClassSet where
  | chars (s : CodeSet)
  | bytes (s : CodeSet)
  deriving DecidableEq, Repr

def ClassSet.codes : ClassSet → CodeSet
  | chars s => s
  | bytes s => s

inductive Expr where
  | empty
  | literal (bytes : List UInt8)
  | oneOf (set : ClassSet)
  | look (l : Look)
  | repetition (least : Nat) (most : Option Nat) (greedy : Bool) (body : Expr)
  | capture (index : Nat) (name : Option String) (body : Expr)
  | concat (parts : List Expr)
  | alternation (branches : List Expr)

namespace Expr

mutual

def beq : Expr → Expr → Bool
  | empty, empty => true
  | literal a, literal b => a == b
  | oneOf a, oneOf b => a == b
  | look a, look b => a == b
  | repetition n m g a, repetition n' m' g' b => n == n' && m == m' && g == g' && a.beq b
  | capture i n a, capture i' n' b => i == i' && n == n' && a.beq b
  | concat as, concat bs => beqs as bs
  | alternation as, alternation bs => beqs as bs
  | _, _ => false

def beqs : List Expr → List Expr → Bool
  | [], [] => true
  | a :: as, b :: bs => a.beq b && beqs as bs
  | _, _ => false

end

instance : BEq Expr := ⟨beq⟩

mutual

/-- The largest number of bytes that a match can take, if there is a bound. An expression that never
matches has none. -/
def maxLength? : Expr → Option Nat
  | empty => some 0
  | literal bytes => some bytes.length
  | oneOf (.bytes s) => s.intervals.getLast?.map fun _ => 1
  | oneOf (.chars s) => s.intervals.getLast?.map fun i => (Char.ofNat i.last).utf8Size
  | look _ => some 0
  | repetition _ none _ _ => none
  | repetition _ (some most) _ body => body.maxLength?.map (· * most)
  | capture _ _ body => body.maxLength?
  | concat parts => sumLength? parts
  | alternation branches => maxLengths? branches

def sumLength? : List Expr → Option Nat
  | [] => some 0
  | e :: rest => do return (← e.maxLength?) + (← sumLength? rest)

def maxLengths? : List Expr → Option Nat
  | [] => none
  | [e] => e.maxLength?
  | e :: f :: rest => do return max (← e.maxLength?) (← maxLengths? (f :: rest))

end

end Expr

end PatternMachine

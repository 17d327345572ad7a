/-!
# Sets of code points

A set is a list of ascending, disjoint intervals. The same type holds the tables of Unicode
properties, the character classes of regular expressions and their byte classes; the last two
differ in the alphabet they are complemented in.
-/

namespace PatternMachine

structure Interval where
  first : Nat
  last : Nat
  deriving DecidableEq, Repr, Inhabited

namespace Interval

/-- The interval between two bounds given in either order. -/
def between (a b : Nat) : Interval := ⟨min a b, max a b⟩

def contains (i : Interval) (n : Nat) : Bool := i.first ≤ n && n ≤ i.last

/-- Order by the lower bound, then by the upper one. -/
def le (i j : Interval) : Bool := i.first < j.first || (i.first == j.first && i.last ≤ j.last)

def inter? (i j : Interval) : Option Interval :=
  let lo := max i.first j.first
  let hi := min i.last j.last
  if lo ≤ hi then some ⟨lo, hi⟩ else none

/-- Joins intervals sorted by their lower bounds wherever they overlap or touch. -/
def join : Interval → List Interval → List Interval
  | i, [] => [i]
  | i, j :: rest =>
    if j.first ≤ i.last + 1 then join ⟨i.first, max i.last j.last⟩ rest else i :: join j rest

end Interval

/-- The code points that sets are complemented in: all numbers up to `last` outside `gap`. -/
structure Alphabet where
  last : Nat
  gap : Option Interval
  deriving DecidableEq, Repr

namespace Alphabet

/-- Unicode scalar values: the surrogates are left out. -/
def scalars : Alphabet := ⟨0x10FFFF, some ⟨0xD800, 0xDFFF⟩⟩

def bytes : Alphabet := ⟨0xFF, none⟩

/-- The member after `n`. -/
def next (a : Alphabet) (n : Nat) : Nat :=
  match a.gap with
  | some g => if n + 1 = g.first then g.last + 1 else n + 1
  | none => n + 1

/-- The member before `n`. -/
def prev (a : Alphabet) (n : Nat) : Nat :=
  match a.gap with
  | some g => if n = g.last + 1 then g.first - 1 else n - 1
  | none => n - 1

end Alphabet

structure CodeSet where
  intervals : List Interval
  deriving DecidableEq, Repr, Inhabited

namespace CodeSet

def empty : CodeSet := ⟨[]⟩

/-- The whole alphabet as a single interval. -/
def full (a : Alphabet) : CodeSet := ⟨[⟨0, a.last⟩]⟩

def isEmpty (s : CodeSet) : Bool := s.intervals.isEmpty

/-- The search stops at the first interval that starts beyond `n`. -/
def search (n : Nat) : List Interval → Bool
  | [] => false
  | i :: rest => if n < i.first then false else if n ≤ i.last then true else search n rest

def contains (s : CodeSet) (n : Nat) : Bool := search n s.intervals

/-- Sorts intervals and joins those that overlap or touch. -/
def ofIntervals (intervals : List Interval) : CodeSet :=
  match intervals.mergeSort Interval.le with
  | [] => ⟨[]⟩
  | i :: rest => ⟨i.join rest⟩

def ofCodes (codes : List Nat) : CodeSet := ofIntervals (codes.map fun n => ⟨n, n⟩)

/-- The same members in intervals that do not touch. A complement may have two that do, at the two
sides of the gap of its alphabet. -/
def joined (s : CodeSet) : CodeSet := ofIntervals s.intervals

def union (s t : CodeSet) : CodeSet := ofIntervals (s.intervals ++ t.intervals)

def unions (sets : List CodeSet) : CodeSet := ofIntervals (sets.flatMap intervals)

def inter (s t : CodeSet) : CodeSet :=
  ⟨s.intervals.flatMap fun i => t.intervals.filterMap i.inter?⟩

/-- The parts of ascending intervals that lie outside of other ascending intervals. -/
def outside (a : Alphabet) : List Interval → List Interval → List Interval
  | [], _ => []
  | is, [] => is
  | i :: is, j :: js =>
    if j.last < i.first then outside a (i :: is) js
    else if i.last < j.first then i :: outside a is (j :: js)
    else
      (if i.first < j.first then [.between i.first (a.prev j.first)] else []) ++
        if j.last < i.last then outside a (.between (a.next j.last) i.last :: is) js
        else outside a is (j :: js)
termination_by is js => is.length + js.length

def diff (a : Alphabet) (s t : CodeSet) : CodeSet := ⟨outside a s.intervals t.intervals⟩

def symmDiff (a : Alphabet) (s t : CodeSet) : CodeSet := (s.union t).diff a (s.inter t)

/-- The gaps behind an interval that ends at `last`. -/
def gaps (a : Alphabet) (last : Nat) : List Interval → List Interval
  | [] => if last < a.last then [.between (a.next last) a.last] else []
  | i :: rest => .between (a.next last) (a.prev i.first) :: gaps a i.last rest

def complement (a : Alphabet) (s : CodeSet) : CodeSet :=
  match s.intervals with
  | [] => full a
  | i :: rest =>
    ⟨(if 0 < i.first then [.between 0 (a.prev i.first)] else []) ++ gaps a i.last rest⟩

/-- All members are below 128. -/
def isAscii (s : CodeSet) : Bool := s.intervals.all (·.last ≤ 0x7F)

end CodeSet

end PatternMachine

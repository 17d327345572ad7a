import PatternMachine.Error
import PatternMachine.Expr.Basic
import PatternMachine.Pattern.Basic
import PatternMachine.Text.Utf8
import PatternMachine.Unicode.Derived

/-!
# Expressions as patterns

An expression becomes a pattern over characters. It is visited from the leaves up, and the patterns
that have no place yet wait on a stack. Groups are numbered from zero, and assertions that are not
anchors become consumers that look at both sides of a position and take nothing.
-/

namespace PatternMachine

namespace Look

/-- The character before the position. -/
def before? (input : Array Char) (rest : Span) : Option Char :=
  if rest.start = 0 then none else input[rest.start - 1]?

/-- The character behind the position, within the searched range. -/
def after? (input : Array Char) (rest : Span) : Option Char :=
  if rest.start < rest.stop then input[rest.start]? else none

def isWordAscii (c : Char) : Bool := c.isAlphanum || c == '_'

def isWordUnicode (c : Char) : Bool := Unicode.isAlphanumeric c || c == '_'

/-- A pattern that matches the empty text between certain characters. -/
def between (holds : Option Char → Option Char → Bool) : Pattern Char :=
  .consumer fun input rest =>
    if holds (before? input rest) (after? input rest) then some rest.start else none

def boundary (isWord : Char → Bool) : Pattern Char :=
  between fun before after => before.any isWord != after.any isWord

def noBoundary (isWord : Char → Bool) : Pattern Char :=
  between fun before after => before.any isWord == after.any isWord

/-- The pattern of an assertion. Where carriage returns end lines too, a pair of carriage return and
line feed ends a single line. -/
def pattern? : Look → Option (Pattern Char)
  | start => some (.anchor .start)
  | stop => some (.anchor .stop)
  | startLF => some <| between fun before _ => before.all (· == '\n')
  | endLF => some <| between fun _ after => after.all (· == '\n')
  | startCRLF => some <| between fun before after =>
    before.all fun c => c == '\n' || (c == '\r' && after != some '\n')
  | endCRLF => some <| between fun before after =>
    after.all fun c => c == '\r' || (c == '\n' && before != some '\r')
  | wordAscii => some (boundary isWordAscii)
  | wordAsciiNegate => some (noBoundary isWordAscii)
  | wordUnicode => some (boundary isWordUnicode)
  | wordUnicodeNegate => some (noBoundary isWordUnicode)
  | _ => none

end Look

/-- Where an interval lies, seen from a number. -/
def Interval.order (n : Nat) (i : Interval) : Ordering :=
  if i.last < n then .lt else if n < i.first then .gt else .eq

/-- Whether the item that `order` looks for is one of the `size` items from `base` on. Half of them
are left out at a time. -/
def bisect {α : Type} (order : α → Ordering) (items : Array α) (base size : Nat) : Bool :=
  if 1 < size then
    let half := size / 2
    if items[base + half]?.map order = some .gt then bisect order items base (size - half)
    else bisect order items (base + half) (size - half)
  else decide (0 < size) && items[base]?.map order == some .eq
termination_by size

/-- The pattern of a class; one that holds every code point matches any character. -/
def ClassSet.pattern (set : ClassSet) : Pattern Char :=
  if set.codes = .full .scalars then .any
  else
    let intervals := set.codes.intervals.toArray
    .predicate fun c => bisect (Interval.order c.toNat) intervals 0 intervals.size

namespace Expr

def amount : Nat → Option Nat → Amount
  | 0, none => .zeroOrMore
  | 1, none => .oneOrMore
  | 0, some 1 => .zeroOrOne
  | n, none => .nOrMore n
  | 0, some m => .upTo m
  | n, some m => if n = m then .exactly n else .range n m

def textPattern (bytes : List UInt8) : Except Rejection (Pattern Char) :=
  match Utf8.decode? bytes with
  | none => .error (.error (.unsupported .malformedText))
  | some [c] => .ok (.element c)
  | some text => .ok (.literal text)

def lookPattern (l : Look) : Except Rejection (Pattern Char) :=
  match l.pattern? with
  | some p => .ok p
  | none => .error (.error (.unsupported (.assertion l)))

/-- Groups of expressions are numbered from one. -/
def groupPattern (index : Nat) (name : Option String) (body : Pattern Char) :
    Except Rejection (Pattern Char) :=
  match index with
  | 0 => .error (.fault .subtractionOverflow)
  | index + 1 => .ok (.capture index name body)

/-! ### The traversal -/

mutual

/-- Calls `post` with every part of an expression, from left to right, and with each of them after
its own parts. -/
def visit {σ : Type} (post : Expr → σ → Except Rejection σ) : Expr → σ → Except Rejection σ
  | repetition least most greedy body, s => do
    post (repetition least most greedy body) (← body.visit post s)
  | capture index name body, s => do post (capture index name body) (← body.visit post s)
  | concat parts, s => do post (concat parts) (← visitAll post parts s)
  | alternation branches, s => do post (alternation branches) (← visitAll post branches s)
  | empty, s => post empty s
  | literal bytes, s => post (literal bytes) s
  | oneOf set, s => post (oneOf set) s
  | look l, s => post (look l) s

def visitAll {σ : Type} (post : Expr → σ → Except Rejection σ) : List Expr → σ → Except Rejection σ
  | [], s => .ok s
  | e :: rest, s => do visitAll post rest (← e.visit post s)

end

/-! ### The stack of patterns, the latest first -/

/-- Takes the latest pattern. -/
def pop : List (Pattern Char) → Except Rejection (Pattern Char × List (Pattern Char))
  | [] => .error (.fault .nothingLowered)
  | q :: stack => .ok (q, stack)

/-- Takes the latest `n` patterns, in the order in which they came. -/
def popMany (n : Nat) (stack : List (Pattern Char)) :
    Except Rejection (List (Pattern Char) × List (Pattern Char)) :=
  if n ≤ stack.length then .ok ((stack.take n).reverse, stack.drop n)
  else .error (.fault .tooLittleLowered)

/-- Puts the pattern of an expression in the place of the patterns of its parts. -/
def lower : Expr → List (Pattern Char) → Except Rejection (List (Pattern Char))
  | empty, stack => .ok (.empty :: stack)
  | literal bytes, stack => do return (← textPattern bytes) :: stack
  | oneOf set, stack => .ok (set.pattern :: stack)
  | look l, stack => do return (← lookPattern l) :: stack
  | repetition least most greedy _, stack => do
    let (body, stack) ← pop stack
    return .repetition (amount least most) (if greedy then .greedy else .reluctant) body :: stack
  | capture index name _, stack => do
    let (body, stack) ← pop stack
    return (← groupPattern index name body) :: stack
  | concat parts, stack => do
    let (patterns, stack) ← popMany parts.length stack
    return .concat patterns :: stack
  | alternation branches, stack => do
    let (patterns, stack) ← popMany branches.length stack
    return .alternation patterns :: stack

/-- What is left on the stack in the end. -/
def finish (stack : List (Pattern Char)) : Except Rejection (Pattern Char) :=
  if stack.length = 1 then do
    let (q, _) ← pop stack
    return q
  else .error (.fault (.loweredNotSingle stack.length))

def pattern (e : Expr) : Except Rejection (Pattern Char) := do finish (← e.visit lower [])

end Expr

end PatternMachine

import PatternMachine.Pattern.Basic
import PatternMachine.Proofs.Assembler.Extension

/-! The code between two addresses of a program has a shape. The shapes of the constructs are built
from the shapes of their bodies, with every target as the address it has in the program. -/
namespace PatternMachine

/-- What can be said of the code between two addresses. -/
abbrev Shape := Nat → Nat → Prop

namespace Shape

variable {E : Type} (p : Program E)

def nothing : Shape := fun lo hi => hi = lo

def single (means : Operation → Prop) : Shape := fun lo hi =>
  hi = lo + 1 ∧ ∃ op, p.operation? lo = some op ∧ means op

def andThen (first second : Shape) : Shape := fun lo hi => ∃ mid, first lo mid ∧ second mid hi

def element (e : E) : Shape :=
  single p fun op => ∃ r, op = .matchElement r ∧ p.elements[r.index]? = some e

def literal : List E → Shape
  | [] => nothing
  | e :: rest => andThen (element p e) (literal rest)

def predicate (f : E → Bool) : Shape :=
  single p fun op => ∃ r, op = .matchPredicate r ∧ p.predicates[r.index]? = some f

def consumer (f : ConsumeFunction E) : Shape :=
  single p fun op => ∃ r, op = .consumeBy r ∧ p.consumeFunctions[r.index]? = some f

/-- The body stands between a save point and its removal. -/
def atomic (body : Shape) : Shape := fun lo hi =>
  ∃ mid, p.operation? lo = some (.save ⟨mid + 2⟩) ∧ body (lo + 1) mid ∧
    p.operation? mid = some (.clearThrough ⟨mid + 2⟩) ∧
    p.operation? (mid + 1) = some (.branch ⟨mid + 3⟩) ∧
    p.operation? (mid + 2) = some .fail ∧ hi = mid + 3

/-- The address where a failing body of an assertion is caught. -/
def interception : Lookahead → Nat → Nat
  | .positive, mid => mid + 2
  | .negative, mid => mid + 3

/-- What stands behind the body of an assertion and the removal of its save point. -/
def settled : Lookahead → Nat → Prop
  | .positive, mid =>
    p.operation? (mid + 1) = some .fail ∧ p.operation? (mid + 2) = some .clear ∧
      p.operation? (mid + 3) = some .fail
  | .negative, mid =>
    p.operation? (mid + 1) = some .clear ∧ p.operation? (mid + 2) = some .fail ∧
      p.operation? (mid + 3) = some .fail

def lookahead (kind : Lookahead) (body : Shape) : Shape := fun lo hi =>
  ∃ mid, p.operation? lo = some (.save ⟨mid + 4⟩) ∧
    p.operation? (lo + 1) = some (.save ⟨interception kind mid⟩) ∧ body (lo + 2) mid ∧
    p.operation? mid = some (.clearThrough ⟨interception kind mid⟩) ∧ settled p kind mid ∧
    hi = mid + 4

/-- A branch that is left for `done`; the next one stands behind it. -/
def branch (done : Nat) (body : Shape) : Shape := fun lo hi =>
  ∃ mid, p.operation? lo = some (.save ⟨mid + 1⟩) ∧ body (lo + 1) mid ∧
    p.operation? mid = some (.branch ⟨done⟩) ∧ hi = mid + 1

def mandatory (body : Shape) : Nat → Shape
  | 0 => nothing
  | n + 1 => andThen body (mandatory body n)

/-- A choice between what follows and `exit`. -/
def choice (greedy : Bool) (exit : Nat) : Shape := fun lo hi =>
  if greedy then p.operation? lo = some (.save ⟨exit⟩) ∧ hi = lo + 1
  else p.operation? lo = some (.save ⟨lo + 2⟩) ∧ p.operation? (lo + 1) = some (.branch ⟨exit⟩) ∧
    hi = lo + 2

def optional (greedy : Bool) (done : Nat) (body : Shape) : Nat → Shape
  | 0 => nothing
  | n + 1 => andThen (choice p greedy done) (andThen body (optional greedy done body n))

def upTo (n : Nat) (greedy : Bool) (body : Shape) : Shape := fun lo hi =>
  optional p greedy hi body n lo hi

/-- Does any instruction of the range set the register? -/
def Sets (lo hi : Nat) (register : PositionRegister) : Prop :=
  ∃ i, lo ≤ i ∧ i < hi ∧ p.operation? i = some (.movePosition register)

/-- An iteration that is checked for progress. No instruction of the body sets its register. -/
def iteration (register : PositionRegister) (exit : Nat) (body : Shape) : Shape := fun lo hi =>
  ∃ mid stuck, p.operation? lo = some (.movePosition register) ∧ body (lo + 1) mid ∧
    p.operation? mid = some (.comparePosition register stuck) ∧
    p.operation? (mid + 1) = some (.condBranch stuck ⟨exit⟩) ∧ hi = mid + 2 ∧
    register.index < p.registers.positions ∧ stuck.index < p.registers.bools ∧
    ¬Sets p (lo + 1) mid register

def loop (greedy : Bool) (body : Nat → Shape) : Shape := fun lo hi =>
  ∃ first last, choice p greedy hi lo first ∧ body hi first last ∧
    p.operation? last = some (.branch ⟨lo⟩) ∧ hi = last + 1

def star (greedy nullable : Bool) (body : Shape) : Shape := fun lo hi =>
  if nullable then ∃ register, loop p greedy (fun exit => iteration p register exit body) lo hi
  else loop p greedy (fun _ => body) lo hi

def repeated (least : Nat) (most : Option Nat) (greedy nullable : Bool) (body : Shape) : Shape :=
  andThen (mandatory body least) <|
    match most with
    | none => star p greedy nullable body
    | some most => upTo p (most - least) greedy body

def repetition (amount : Amount) (preference : Preference) (nullable : Bool) (body : Shape) :
    Shape :=
  match preference with
  | .greedy => repeated p amount.least amount.most true nullable body
  | .reluctant => repeated p amount.least amount.most false nullable body
  | .possessive => atomic p (repeated p amount.least amount.most true nullable body)

def capture (register : CaptureRegister) (body : Shape) : Shape := fun lo hi =>
  ∃ mid, p.operation? lo = some (.beginCapture register) ∧ body (lo + 1) mid ∧
    p.operation? mid = some (.endCapture register) ∧ hi = mid + 1 ∧
    register.index < p.registers.captures

def backreference (register : CaptureRegister) : Shape :=
  single p fun op => op = .backreference register ∧ register.index < p.registers.captures

end Shape

/-! ### Patterns -/

namespace Pattern

variable {E : Type} (p : Program E) (entry : String → Option Address)

mutual

/-- The code of the pattern stands between the two addresses. References call the productions at
their entries. -/
def Placed : Pattern E → Shape
  | empty => .nothing
  | any => .single p (· = .consume ⟨1⟩)
  | element e => .element p e
  | literal elements => .literal p elements
  | predicate f => .predicate p f
  | consumer f => .consumer p f
  | concat parts => PlacedParts parts
  | alternation branches => fun lo hi => PlacedBranches hi branches lo hi
  | repetition amount preference body =>
    .repetition p amount preference body.canMatchEmpty body.Placed
  | capture index _ body => .capture p ⟨index⟩ body.Placed
  | reference name => .single p fun op => ∃ a, op = .call a ∧ entry name = some a
  | lookahead kind body => .lookahead p kind body.Placed
  | atomic body => .atomic p body.Placed
  | anchor .start => .consumer p startOfInput
  | anchor .stop => .lookahead p .negative (.single p (· = .consume ⟨1⟩))
  | backreference index => .backreference p ⟨index⟩

def PlacedParts : List (Pattern E) → Shape
  | [] => .nothing
  | q :: rest => .andThen q.Placed (PlacedParts rest)

def PlacedBranches (done : Nat) : List (Pattern E) → Shape
  | [] => .single p (· = .fail)
  | [q] => q.Placed
  | q :: q' :: rest => .andThen (.branch p done q.Placed) (PlacedBranches done (q' :: rest))

end

end Pattern

end PatternMachine

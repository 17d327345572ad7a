import PatternMachine.Expr.Basic
import PatternMachine.Text.Utf8

/-!
# Building expressions

Expressions are built in a simplified form: nested sequences and alternations are flattened,
neighbouring literals merged, branches that are single characters or classes joined into one class,
and what all branches start with is factored out.
-/

namespace PatternMachine.Expr

def ofBytes (bytes : List UInt8) : Expr := if bytes.isEmpty then empty else literal bytes

def ofText (text : List Char) : Expr := ofBytes (Utf8.encode text)

/-- The expression without any match. -/
def never : Expr := oneOf (.bytes .empty)

/-- A class of one member is a literal. -/
def ofClass (set : ClassSet) : Expr :=
  match set, set.codes.intervals with
  | _, [] => never
  | .chars s, [i] =>
    if i.first = i.last then ofText [Char.ofNat i.first] else oneOf (.chars s)
  | .bytes s, [i] =>
    if i.first = i.last then literal [UInt8.ofNat i.first] else oneOf (.bytes s)
  | set, _ => oneOf set

/-- What can only match the empty text need not be matched more than once. -/
def repeated (least : Nat) (most : Option Nat) (greedy : Bool) (body : Expr) : Expr :=
  if body.maxLength? = some 0 then of (min least 1) (some (min (most.getD 1) 1))
  else of least most
where
  of : Nat → Option Nat → Expr
    | 0, some 0 => empty
    | 1, some 1 => body
    | least, most => repetition least most greedy body

def items : Expr → List Expr
  | empty => []
  | concat parts => parts
  | e => [e]

/-- Merges neighbouring literals. -/
def mergeLiterals : List Expr → List Expr
  | [] => []
  | literal a :: rest =>
    match mergeLiterals rest with
    | literal b :: rest => literal (a ++ b) :: rest
    | rest => literal a :: rest
  | e :: rest => e :: mergeLiterals rest

def sequence (parts : List Expr) : Expr :=
  match mergeLiterals (parts.flatMap items) with
  | [] => empty
  | [e] => e
  | parts => concat parts

def branches : Expr → List Expr
  | alternation branches => branches
  | e => [e]

/-- The character, if a literal of only one is given. -/
def charOf? : Expr → Option Char
  | literal bytes => Utf8.char? bytes
  | _ => none

def byteOf? : Expr → Option UInt8
  | literal [b] => some b
  | _ => none

/-- The members as characters. Bytes beyond ASCII are none. -/
def charsOf? : Expr → Option CodeSet
  | oneOf (.chars s) => some s
  | oneOf (.bytes s) => if s.isAscii then some s else none
  | _ => none

/-- The members as bytes. Characters beyond ASCII take more than one. -/
def bytesOf? : Expr → Option CodeSet
  | oneOf (.bytes s) => some s
  | oneOf (.chars s) => if s.isAscii then some s else none
  | _ => none

/-- All branches as one class, if they are single characters or bytes, or classes that go
together. -/
def joined? (branches : List Expr) : Option Expr :=
  ((branches.mapM charOf?).map fun cs => ofClass (.chars (.ofCodes (cs.map Char.toNat)))).or <|
  ((branches.mapM byteOf?).map fun bs => ofClass (.bytes (.ofCodes (bs.map UInt8.toNat)))).or <|
  ((branches.mapM charsOf?).map fun sets => ofClass (.chars (.unions sets))).or <|
  (branches.mapM bytesOf?).map fun sets => ofClass (.bytes (.unions sets))

/-- An alternation whose branches have no common start. -/
def divided (alternatives : List Expr) : Expr :=
  match alternatives.flatMap branches with
  | [] => never
  | [e] => e
  | branches => (joined? branches).getD (alternation branches)

def commonStart : List Expr → List Expr → List Expr
  | a :: as, b :: bs => if a == b then a :: commonStart as bs else []
  | _, _ => []

def partsOf? : Expr → Option (List Expr)
  | concat parts => some parts
  | _ => none

/-- What all branches start with, and what is left of each. -/
def factor? (branches : List Expr) : Option (List Expr × List (List Expr)) := do
  match ← branches.mapM partsOf? with
  | [] => none
  | parts :: rest =>
    let start := rest.foldl commonStart parts
    if start.isEmpty then none
    else return (start, (parts :: rest).map (·.drop start.length))

/-- An alternation. Once the longest common start is factored out there is no other. -/
def choice (alternatives : List Expr) : Expr :=
  match divided alternatives with
  | alternation branches =>
    match factor? branches with
    | some (start, rests) => sequence (start ++ [divided (rests.map sequence)])
    | none => alternation branches
  | e => e

end PatternMachine.Expr

import PatternMachine.Regex.Lexeme

/-!
# Reading regular expressions

Readers for what nests: brackets and groups. Every round takes at least one character, so the length
of the text bounds their number.
-/

namespace PatternMachine.Regex

/-! ### Brackets -/

/-- The left side of an operation whose right side is still being read. -/
abbrev PendingOperation := Option (SetTree × SetOperation)

/-- Operations associate to the left and none binds more tightly than another. -/
def settle (pending : PendingOperation) (items : List SetTree) : SetTree :=
  match pending with
  | none => .ofItems items.reverse
  | some (left, op) => .operation op left (.ofItems items.reverse)

/-- The inside of brackets up to the closing one. The items read so far are given latest first. -/
def inside? (verbose : Bool) :
    Nat → PendingOperation → List SetTree → List Char → Option (SetTree × List Char)
  | 0, _, _, _ => none
  | rounds + 1, pending, items, s =>
    match skip verbose s with
    | [] => none
    | ']' :: rest => some (settle pending items, rest)
    | '&' :: '&' :: rest =>
      inside? verbose rounds (some (settle pending items, .intersection)) [] rest
    | '-' :: '-' :: rest =>
      inside? verbose rounds (some (settle pending items, .difference)) [] rest
    | '~' :: '~' :: rest =>
      inside? verbose rounds (some (settle pending items, .symmetricDifference)) [] rest
    | '[' :: rest =>
      match namedClass? rest with
      | some (item, rest) => inside? verbose rounds pending (item :: items) rest
      | none => do
        let (negated, first, rest) := brackets verbose rest
        let (set, rest) ← inside? verbose rounds none first.reverse rest
        inside? verbose rounds pending (.bracketed negated set :: items) rest
    | rest => do
      let (item, rest) ← item? verbose rest
      inside? verbose rounds pending (item :: items) rest

/-- A bracketed class, behind its opening bracket. -/
def bracketed? (verbose : Bool) (rounds : Nat) (s : List Char) : Option (Tree × List Char) := do
  let (negated, first, rest) := brackets verbose s
  let (set, rest) ← inside? verbose rounds none first.reverse rest
  return (.bracketed negated set, rest)

/-! ### Groups -/

structure Scope where
  verbose : Bool
  /-- The number of capture groups opened so far. -/
  captures : Nat
  /-- The names given to them. -/
  names : List String

namespace Scope

def start : Scope := ⟨false, 0, []⟩

/-- The scope behind a change of flags. -/
def change (scope : Scope) (changes : FlagChanges) : Scope :=
  { scope with verbose := (changes.lookup .verbose).getD scope.verbose }

/-- Gives the next capture group its number. A name may be given only once. -/
def capture? (scope : Scope) (name : Option String) : Option (GroupKind × Scope) :=
  if name.any scope.names.contains then none
  else
    some (.capture (scope.captures + 1) name,
      { scope with captures := scope.captures + 1, names := name.toList ++ scope.names })

end Scope

/-- Puts a repetition around the latest part. Nothing and changes of flags cannot be repeated. -/
def repeatLatest? (least : Nat) (most : Option Nat) (greedy : Bool) : List Tree →
    Option (List Tree)
  | [] => none
  | .empty :: _ => none
  | .flags _ :: _ => none
  | t :: rest => some (.repetition least most greedy t :: rest)

/-- Branches up to the end of the text or a closing parenthesis, which is left in place. The
branches and the parts of the current one read so far are given latest first. -/
def branches? : Nat → Scope → List Tree → List Tree → List Char →
    Option (Tree × Scope × List Char)
  | 0, _, _, _, _ => none
  | rounds + 1, scope, branches, parts, s =>
    let verbose := scope.verbose
    let finish (rest : List Char) :=
      some (Tree.ofBranches (Tree.ofParts parts.reverse :: branches).reverse, scope, rest)
    let quantify (least : Nat) (most : Option Nat) (rest : List Char) := do
      let (greedy, rest) := greed rest
      branches? rounds scope branches (← repeatLatest? least most greedy parts) rest
    match skip verbose s with
    | [] => finish []
    | ')' :: rest => finish (')' :: rest)
    | '|' :: rest => branches? rounds scope (.ofParts parts.reverse :: branches) [] rest
    | '[' :: rest => do
      let (t, rest) ← bracketed? verbose rounds rest
      branches? rounds scope branches (t :: parts) rest
    | '?' :: rest => quantify 0 (some 1) rest
    | '*' :: rest => quantify 0 none rest
    | '+' :: rest => quantify 1 none rest
    | '{' :: rest => do
      let (least, most, rest) ← bounds? verbose rest
      quantify least most (skip verbose rest)
    | '(' :: rest => do
      match ← opening? verbose rest with
      | (.flags changes, rest) =>
        branches? rounds (scope.change changes) branches (.flags changes :: parts) rest
      | (.plain changes, rest) =>
        let (body, inner, rest) ← branches? rounds (scope.change changes) [] [] rest
        match rest with
        | ')' :: rest =>
          branches? rounds { inner with verbose } branches (.group (.plain changes) body :: parts)
            rest
        | _ => none
      | (.capture name, rest) =>
        let (kind, scope) ← scope.capture? name
        let (body, inner, rest) ← branches? rounds scope [] [] rest
        match rest with
        | ')' :: rest =>
          branches? rounds { inner with verbose } branches (.group kind body :: parts) rest
        | _ => none
    | rest => do
      let (a, rest) ← atom? verbose rest
      branches? rounds scope branches (.atom a :: parts) rest

/-- No tree may be nested more deeply than this. -/
def depthLimit : Nat := 250

/-- The tree of a regular expression, if it is well formed. -/
def Tree.read? (text : List Char) : Option Tree := do
  match ← branches? (text.length + 1) .start [] [] text with
  | (t, _, []) => if t.depth ≤ depthLimit then some t else none
  | _ => none

end PatternMachine.Regex

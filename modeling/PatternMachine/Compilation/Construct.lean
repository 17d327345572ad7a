import PatternMachine.Compilation.Basic

/-!
# Constructs

The code around the bodies of repetitions, assertions, atomic groups and alternations. Each
construct takes its body as an emission, whatever that emits.
-/

namespace PatternMachine.Compilation

variable {E : Type} [DecidableEq E]

/-- The body, and then no way back into it:

```text
    SAVE intercept
    body
    CLEAR_THROUGH intercept
    BRANCH done
intercept:
    FAIL
done:
```
-/
def atomically (c : Compilation E) (body : Emission E) : Outcome (Compilation E) := do
  let (intercept, c) := c.makeToken
  let (done, c) := c.makeToken
  let c ← c.emit (.save intercept)
  let c ← body c
  let c ← c.emit (.clearThrough intercept)
  let c ← c.emit (.branch done)
  let c ← c.label intercept
  let c ← c.emit .fail
  c.label done

/-- The code behind a body that has matched, up to the way out. -/
def settleAhead (c : Compilation E) (kind : Lookahead) (intercept : Token) :
    Outcome (Compilation E) :=
  match kind with
  | .positive => do
    let c ← c.emit .fail
    let c ← c.label intercept
    let c ← c.emit .clear
    c.emit .fail
  | .negative => do
    let c ← c.emit .clear
    let c ← c.emit .fail
    let c ← c.label intercept
    c.emit .fail

/-- One save point leads on at the current position, another one catches a failing body. Whatever
the body did is undone on the way to the first:

```text
    SAVE success
    SAVE intercept
    body
    CLEAR_THROUGH intercept
    FAIL              (positive)   |   CLEAR; FAIL   (negative)
intercept:
    CLEAR; FAIL       (positive)   |   FAIL          (negative)
success:
```
-/
def lookingAhead (c : Compilation E) (kind : Lookahead) (body : Emission E) :
    Outcome (Compilation E) := do
  let (success, c) := c.makeToken
  let (intercept, c) := c.makeToken
  let c ← c.emit (.save success)
  let c ← c.emit (.save intercept)
  let c ← body c
  let c ← c.emit (.clearThrough intercept)
  let c ← c.settleAhead kind intercept
  c.label success

/-- One branch of an alternation that is not the last one. -/
def branch (c : Compilation E) (done : Token) (body : Emission E) : Outcome (Compilation E) := do
  let (next, c) := c.makeToken
  let c ← c.emit (.save next)
  let c ← body c
  let c ← c.emit (.branch done)
  c.label next

/-- The body, a given number of times. -/
def mandatory (body : Emission E) : Nat → Emission E
  | 0, c => .ok c
  | n + 1, c => do mandatory body n (← body c)

/-- The choice between what follows and the way out: a greedy choice saves the way out, a reluctant
one saves what follows. -/
def choose (c : Compilation E) (greedy : Bool) (exit : Token) : Outcome (Compilation E) :=
  if greedy then c.emit (.save exit)
  else do
    let (more, c) := c.makeToken
    let c ← c.emit (.save more)
    let c ← c.emit (.branch exit)
    c.label more

/-- The body, at most a given number of times; each copy is tried only behind the one before. -/
def optional (greedy : Bool) (done : Token) (body : Emission E) : Nat → Emission E
  | 0, c => .ok c
  | n + 1, c => do
    let c ← c.choose greedy done
    optional greedy done body n (← body c)

/-- The body, at most `n` times. -/
def upTo (c : Compilation E) (n : Nat) (greedy : Bool) (body : Emission E) :
    Outcome (Compilation E) :=
  if n = 0 then .ok c
  else do
    let (done, c) := c.makeToken
    let c ← optional greedy done body n c
    c.label done

/-- One iteration of a loop. It leaves the loop if it did not move since its start. -/
def checkedIteration (c : Compilation E) (register : PositionRegister) (exit : Token)
    (body : Emission E) : Outcome (Compilation E) := do
  let c ← c.emit (.movePosition register)
  let c ← body c
  let (stuck, c) ← c.progressRegister
  let c ← c.emit (.comparePosition register stuck)
  c.emit (.condBranch stuck exit)

/-- A loop around an iteration, which is told the way out. -/
def loop (c : Compilation E) (greedy : Bool) (iteration : Token → Emission E) :
    Outcome (Compilation E) := do
  let (top, c) := c.makeToken
  let (exit, c) := c.makeToken
  let c ← c.label top
  let c ← c.choose greedy exit
  let c ← iteration exit c
  let c ← c.emit (.branch top)
  c.label exit

/-- The body, any number of times. A body that may match nothing is checked for progress, or the
loop could run forever at one position. -/
def star (c : Compilation E) (greedy nullable : Bool) (body : Emission E) :
    Outcome (Compilation E) :=
  if nullable then do
    let (register, c) ← c.makePosition
    c.loop greedy fun exit c => c.checkedIteration register exit body
  else c.loop greedy fun _ => body

/-- Mandatory copies of the body, and behind them optional ones or a loop. -/
def repeated (c : Compilation E) (least : Nat) (most : Option Nat) (greedy nullable : Bool)
    (body : Emission E) : Outcome (Compilation E) := do
  let c ← mandatory body least c
  match most with
  | none => c.star greedy nullable body
  | some most => c.upTo (most - least) greedy body

end PatternMachine.Compilation

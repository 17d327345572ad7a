import PatternMachine.Compilation.Pattern

/-!
# Compiling grammars

Every production that can be reached becomes a function, which others call. The code of a production
is emitted once, after the code that first refers to it. Returning from the start production with
nothing left to return to accepts.
-/

namespace PatternMachine

variable {E : Type} [DecidableEq E]

namespace Compilation

/-- The code of a production, marked by its name. -/
def emitProduction (c : Compilation E) (p : PendingProduction E) : Outcome (Compilation E) := do
  let c ← c.label p.entry
  let c ← c.emit (.nop (some p.name))
  let c ← p.body.emit c
  c.emit .ret

/-- Emits what is pending, the latest first, and what becomes pending thereby. No production is ever
pending twice, so their number bounds the rounds. -/
def emitPending : Nat → Emission E
  | 0, c => .ok c
  | rounds + 1, c =>
    match c.pending with
    | [] => .ok c
    | p :: pending => do emitPending rounds (← { c with pending }.emitProduction p)

end Compilation

open Compilation

/-- The program of a grammar, with at most `limit` instructions. -/
def Grammar.compile (g : Grammar E) (limit : Nat) : Outcome (Program E) := do
  let c ← makeCaptures g.captureCount (.start g.productions limit)
  let (entry, c) ← c.entry g.start
  let c ← c.emit (.branch entry)
  let c ← emitPending g.productions.length c
  let c ← c.checkSize
  lift c.assembler.assemble

end PatternMachine

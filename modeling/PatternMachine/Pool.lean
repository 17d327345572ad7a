/-!
# Constant pools

A pool lists distinct values in the order in which they first came. Interning a value returns its
index, which never changes afterwards.
-/

namespace PatternMachine

structure Pool (α : Type) where
  items : Array α

namespace Pool

variable {α : Type}

def empty : Pool α := ⟨#[]⟩

def intern [DecidableEq α] (pool : Pool α) (a : α) : Nat × Pool α :=
  match pool.items.idxOf? a with
  | some index => (index, pool)
  | none => (pool.items.size, ⟨pool.items.push a⟩)

/-- A pool of the given values, duplicates left out. -/
def ofList [DecidableEq α] (values : List α) : Pool α :=
  values.foldl (fun pool a => (pool.intern a).2) empty

end Pool

end PatternMachine

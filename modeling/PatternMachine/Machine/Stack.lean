/-!
# Stacks of known depth

A list, the top first, together with its length.
-/

namespace PatternMachine

structure Stack (α : Type) where
  items : List α
  depth : Nat
  depth_eq : depth = items.length := by simp

namespace Stack

variable {α : Type}

def empty : Stack α := ⟨[], 0, rfl⟩

def isEmpty (s : Stack α) : Bool := s.items.isEmpty

def top? (s : Stack α) : Option α := s.items.head?

def push (s : Stack α) (a : α) : Stack α := ⟨a :: s.items, s.depth + 1, by simp [s.depth_eq]⟩

def pop? : Stack α → Option (α × Stack α)
  | ⟨[], _, _⟩ => none
  | ⟨a :: rest, depth, h⟩ => some (a, ⟨rest, depth - 1, by simp [h]⟩)

@[ext] theorem ext {s t : Stack α} (h : s.items = t.items) : s = t := by
  cases s; cases t; simp_all

@[simp] theorem items_empty : (empty : Stack α).items = [] := rfl

@[simp] theorem items_push (s : Stack α) (a : α) : (s.push a).items = a :: s.items := rfl

@[simp] theorem depth_push (s : Stack α) (a : α) : (s.push a).depth = s.depth + 1 := rfl

@[simp] theorem pop?_push (s : Stack α) (a : α) : (s.push a).pop? = some (a, s) := rfl

end Stack

end PatternMachine

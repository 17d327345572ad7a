import PatternMachine.Expr.Pattern

/-! Halving finds what it looks for in every array that is in order, so a class accepts exactly the
characters in one of its intervals. -/
namespace PatternMachine

/-- Seen from what is looked for, everything before a smaller item is smaller, and everything behind a
larger one is larger. -/
def SortedBy {α : Type} (order : α → Ordering) (items : Array α) : Prop :=
  ∀ (i j : Nat) (x y : α), i < j → items[i]? = some x → items[j]? = some y →
    (order y = .lt → order x = .lt) ∧ (order x = .gt → order y = .gt)

/-- The item that is looked for is one of the `size` items from `base` on. -/
def HoldsWithin {α : Type} (order : α → Ordering) (items : Array α) (base size : Nat) : Prop :=
  ∃ k x, base ≤ k ∧ k < base + size ∧ items[k]? = some x ∧ order x = .eq

section

variable {α : Type} {order : α → Ordering} {items : Array α} {base half size : Nat} {y : α}

/-- If the item in the middle is too large, the lower part holds what is looked for. -/
theorem HoldsWithin.lower (sorted : SortedBy order items) (known : items[base + half]? = some y)
    (large : order y = .gt) (enough : half ≤ size - half) :
    HoldsWithin order items base size ↔ HoldsWithin order items base (size - half) := by
  constructor
  · rintro ⟨k, x, above, below, found, eq⟩
    have before : k < base + half := by
      rcases Nat.lt_trichotomy k (base + half) with before | rfl | behind
      · exact before
      · cases known.symm.trans found
        rw [large] at eq
        cases eq
      · have larger := (sorted _ k y x behind known found).2 large
        rw [larger] at eq
        cases eq
    exact ⟨k, x, above, by omega, found, eq⟩
  · rintro ⟨k, x, above, below, found, eq⟩
    exact ⟨k, x, above, by omega, found, eq⟩

/-- Otherwise the upper part holds it. -/
theorem HoldsWithin.upper (sorted : SortedBy order items) (known : items[base + half]? = some y)
    (small : order y ≠ .gt) (le : half < size) :
    HoldsWithin order items base size ↔ HoldsWithin order items (base + half) (size - half) := by
  constructor
  · rintro ⟨k, x, above, below, found, eq⟩
    rcases Nat.lt_or_ge k (base + half) with before | behind
    · -- What is looked for is before the middle, so the middle is no smaller: it is found there, too.
      cases middle : order y with
      | lt =>
        have smaller := (sorted k _ x y before found known).1 middle
        rw [smaller] at eq
        cases eq
      | eq => exact ⟨base + half, y, Nat.le_refl _, by omega, known, middle⟩
      | gt => exact absurd middle small
    · exact ⟨k, x, behind, by omega, found, eq⟩
  · rintro ⟨k, x, above, below, found, eq⟩
    exact ⟨k, x, by omega, by omega, found, eq⟩

theorem bisect_iff (sorted : SortedBy order items) (inside : base + size ≤ items.size) :
    bisect order items base size = true ↔ HoldsWithin order items base size := by
  induction size using Nat.strongRecOn generalizing base with
  | _ size ih =>
    unfold bisect
    split
    next more =>
      have bound : base + size / 2 < items.size := by omega
      have known := Array.getElem?_eq_getElem bound
      dsimp only
      rw [known, Option.map_some]
      by_cases large : order items[base + size / 2] = .gt
      · rw [if_pos (congrArg some large), HoldsWithin.lower sorted known large (by omega)]
        exact ih _ (by omega) (by omega)
      · rw [if_neg fun eq => large (Option.some.inj eq), HoldsWithin.upper sorted known large (by omega)]
        exact ih _ (by omega) (by omega)
    next few =>
      simp only [Bool.and_eq_true, decide_eq_true_eq, beq_iff_eq, Option.map_eq_some_iff]
      constructor
      · rintro ⟨one, x, found, eq⟩
        exact ⟨base, x, Nat.le_refl _, by omega, found, eq⟩
      · rintro ⟨k, x, above, below, found, eq⟩
        obtain rfl : k = base := by omega
        exact ⟨by omega, x, found, eq⟩

end

/-! ### Classes -/

/-- The intervals of the set ascend, and no two of them meet. -/
structure CodeSet.Ascending (s : CodeSet) : Prop where
  ordered : ∀ i ∈ s.intervals, i.first ≤ i.last
  disjoint : s.intervals.Pairwise fun i j => i.last < j.first

theorem Interval.order_eq {n : Nat} {i : Interval} : i.order n = .eq ↔ i.contains n = true := by
  unfold order contains
  rw [Bool.and_eq_true, decide_eq_true_eq, decide_eq_true_eq]
  split
  · simp only [reduceCtorEq, false_iff]
    omega
  · split
    · simp only [reduceCtorEq, false_iff]
      omega
    · simp only [true_iff]
      omega

namespace CodeSet.Ascending

variable {s : CodeSet}

theorem sortedBy (h : s.Ascending) (n : Nat) : SortedBy (Interval.order n) s.intervals.toArray := by
  intro i j x y less found found'
  rw [List.getElem?_toArray] at found found'
  obtain ⟨inside, rfl⟩ := List.getElem?_eq_some_iff.mp found
  obtain ⟨inside', rfl⟩ := List.getElem?_eq_some_iff.mp found'
  have apart := List.pairwise_iff_getElem.mp h.disjoint i j inside inside' less
  have first := h.ordered _ (List.getElem_mem inside)
  have second := h.ordered _ (List.getElem_mem inside')
  generalize s.intervals[i] = x at *
  generalize s.intervals[j] = y at *
  simp only [Interval.order]
  constructor
  · intro smaller
    split at smaller
    · rw [if_pos (by omega)]
    · split at smaller <;> cases smaller
  · intro larger
    rw [if_neg (by split at larger; cases larger; omega)]
    split at larger
    · cases larger
    · split at larger
      · rw [if_pos (by omega)]
      · cases larger

/-- Halving a class finds the interval that holds a number. -/
theorem bisect_eq (h : s.Ascending) (n : Nat) :
    bisect (Interval.order n) s.intervals.toArray 0 s.intervals.toArray.size =
      s.intervals.any (·.contains n) := by
  rw [Bool.eq_iff_iff, bisect_iff (h.sortedBy n) (by omega), List.any_eq_true]
  constructor
  · rintro ⟨k, i, -, -, found, eq⟩
    rw [List.getElem?_toArray] at found
    exact ⟨i, List.mem_of_getElem? found, Interval.order_eq.mp eq⟩
  · rintro ⟨i, member, eq⟩
    obtain ⟨k, inside, rfl⟩ := List.mem_iff_getElem.mp member
    refine ⟨k, _, Nat.zero_le k, ?_, ?_, Interval.order_eq.mpr eq⟩
    · rw [List.size_toArray]
      omega
    · rw [List.getElem?_toArray, List.getElem?_eq_getElem inside]

end CodeSet.Ascending

end PatternMachine

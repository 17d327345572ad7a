import PatternMachine.Proofs.Outcome.Basic

/-! Slices of the input: what stands between two positions, and what a literal asks of it. -/
namespace PatternMachine

variable {E : Type} {input : Array E}

/-- The elements between two positions. -/
def slice (input : Array E) (start stop : Nat) : List E := (input.extract start stop).toList

theorem slice_self (i : Nat) : slice input i i = [] := by
  simp [slice]

theorem slice_append {i j k : Nat} (le : i ≤ j) (le' : j ≤ k) :
    slice input i j ++ slice input j k = slice input i k := by
  rw [slice, slice, ← Array.toList_append, Array.extract_append_extract, Nat.min_eq_left le,
    Nat.max_eq_right le']
  rfl

theorem length_slice {i j : Nat} (le : j ≤ input.size) : (slice input i j).length = j - i := by
  rw [slice, Array.length_toList, Array.size_extract, Nat.min_eq_left le]

theorem slice_succ {i : Nat} (lt : i < input.size) : slice input i (i + 1) = [input[i]] := by
  simp [slice, List.drop_eq_getElem_cons, lt]

/-- A slice that is made of two words is cut between them. -/
theorem slice_eq_append {i k : Nat} {u v : List E} (le : i ≤ k) (valid : k ≤ input.size)
    (h : slice input i k = u ++ v) :
    ∃ j, i ≤ j ∧ j ≤ k ∧ slice input i j = u ∧ slice input j k = v := by
  have total := congrArg List.length h
  rw [length_slice valid, List.length_append] at total
  have inside : i + u.length ≤ k := by omega
  have cut : slice input i (i + u.length) ++ slice input (i + u.length) k = slice input i k :=
    slice_append (Nat.le_add_right i u.length) inside
  rw [h] at cut
  have same : (slice input i (i + u.length)).length = u.length := by
    rw [length_slice (Nat.le_trans inside valid)]
    omega
  exact ⟨_, Nat.le_add_right i u.length, inside, List.append_inj cut same⟩

theorem le_of_slice_eq_nil {i j : Nat} (valid : j ≤ input.size) (empty : slice input i j = []) :
    j ≤ i := by
  have total := congrArg List.length empty
  rw [length_slice valid, List.length_nil] at total
  omega

namespace Outcomes

variable {range : Span}

theorem next?_eq {i : Nat} (lt : i < range.stop) (bound : i < input.size) :
    next? input range i = some input[i] := by
  rw [next?, if_pos lt, Array.getElem?_eq_getElem]

/-- A literal asks for a slice of its length. -/
theorem literal_eq [DecidableEq E] (valid : range.stop ≤ input.size) (text : List E) (m : Moment)
    (inside : m.position ≤ range.stop) :
    literal input range text m =
      if m.position + text.length ≤ range.stop ∧
          slice input m.position (m.position + text.length) = text then
        [{ m with position := m.position + text.length }]
      else [] := by
  induction text generalizing m with
  | nil =>
    have here : m.position + ([] : List E).length ≤ range.stop ∧
        slice input m.position (m.position + ([] : List E).length) = [] :=
      ⟨inside, slice_self _⟩
    rw [if_pos here]
    rfl
  | cons e rest ih =>
    by_cases lt : m.position < range.stop
    · have bound := Nat.lt_of_lt_of_le lt valid
      simp only [literal, single, next?_eq lt bound, Option.any_some, decide_eq_true_eq]
      have longer : m.position + (e :: rest).length = m.position + 1 + rest.length := by
        rw [List.length_cons]
        omega
      have cut : slice input m.position (m.position + 1 + rest.length) =
          input[m.position] :: slice input (m.position + 1) (m.position + 1 + rest.length) := by
        rw [← slice_append (Nat.le_succ m.position) (Nat.le_add_right _ rest.length), slice_succ bound]
        rfl
      simp only [longer, cut, List.cons.injEq]
      by_cases same : input[m.position] = e
      · have rest := ih { m with position := m.position + 1 } lt
        rw [if_pos same, List.flatMap_singleton, rest]
        simp only [same, true_and]
      · rw [if_neg same, if_neg fun both => same both.2.1]
        rfl
    · have missing : next? input range m.position = none := if_neg lt
      have short : ¬m.position + (e :: rest).length ≤ range.stop := by
        rw [List.length_cons]
        omega
      rw [if_neg fun both => short both.1]
      simp [literal, single, missing]

end Outcomes

end PatternMachine

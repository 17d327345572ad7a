import PatternMachine.Proofs.Language.Basic
import PatternMachine.Proofs.Layout.Ordered
import PatternMachine.Proofs.Outcome.Slice

/-! The positions that the outcomes of a construct reach are those to which its words lead. The order of the
outcomes does not matter, and loops lose no word by leaving out empty iterations. -/
namespace PatternMachine

open Computability

variable {E : Type} {input : Array E}

/-! ### Outcomes and words -/

theorem Outcomes.mem_prefer {greedy : Bool} {more : List Moment} {m m' : Moment} :
    m' ∈ Outcomes.prefer greedy more m ↔ m' ∈ more ∨ m' = m := by
  cases greedy <;> simp [Outcomes.prefer, or_comm]

/-- From a position of the range, the outcomes come to the positions to which words of the language lead. -/
def Outcomes.Spells (input : Array E) (stop : Nat) (o : Outcomes) (l : Language E) : Prop :=
  ∀ m j, m.position ≤ stop →
    ((∃ m' ∈ o m, m'.position = j) ↔ m.position ≤ j ∧ j ≤ stop ∧ slice input m.position j ∈ l)

namespace Outcomes.Spells

variable {range : Span} {stop : Nat} {o o' : Outcomes} {l l' : Language E}

theorem congr (h : o.Spells input stop l) (same : ∀ word, word ∈ l ↔ word ∈ l') :
    o.Spells input stop l' := by
  intro m j inside
  rw [h m j inside, same]

theorem stay (valid : stop ≤ input.size) : Outcomes.Spells input stop (fun m => [m]) 1 := by
  intro m j inside
  rw [Language.mem_one]
  constructor
  · rintro ⟨m', member, rfl⟩
    cases List.mem_singleton.mp member
    exact ⟨Nat.le_refl _, inside, slice_self _⟩
  · rintro ⟨le, below, empty⟩
    have back := le_of_slice_eq_nil (Nat.le_trans below valid) empty
    exact ⟨m, List.mem_singleton_self m, Nat.le_antisymm le back⟩

theorem nothing : Outcomes.Spells input stop (fun _ => []) (0 : Language E) := by
  intro m j inside
  constructor
  · rintro ⟨m', member, -⟩
    cases member
  · rintro ⟨-, -, word⟩
    exact absurd word (Language.notMem_zero _)

theorem andThen (valid : stop ≤ input.size) (h : o.Spells input stop l)
    (h' : o'.Spells input stop l') :
    Outcomes.Spells input stop (fun m => (o m).flatMap o') (l * l') := by
  intro m j inside
  constructor
  · rintro ⟨m', member, there⟩
    obtain ⟨between, first, second⟩ := List.mem_flatMap.mp member
    obtain ⟨le, below, word⟩ := (h m _ inside).mp ⟨between, first, rfl⟩
    obtain ⟨le', below', word'⟩ := (h' between j below).mp ⟨m', second, there⟩
    exact ⟨Nat.le_trans le le', below', slice_append le le' ▸ Language.append_mem_mul word word'⟩
  · rintro ⟨le, below, word⟩
    obtain ⟨u, first, v, second, cut⟩ := Language.mem_mul.mp word
    obtain ⟨mid, above, before, here, there⟩ :=
      slice_eq_append le (Nat.le_trans below valid) cut.symm
    obtain ⟨between, member, rfl⟩ :=
      (h m mid inside).mpr ⟨above, Nat.le_trans before below, here ▸ first⟩
    obtain ⟨m', member', there⟩ :=
      (h' between j (Nat.le_trans before below)).mpr ⟨before, below, there ▸ second⟩
    exact ⟨m', List.mem_flatMap.mpr ⟨between, member, member'⟩, there⟩

theorem orElse (h : o.Spells input stop l) (h' : o'.Spells input stop l') :
    Outcomes.Spells input stop (fun m => o m ++ o' m) (l + l') := by
  intro m j inside
  rw [Language.mem_add, and_or_left, and_or_left, ← h m j inside, ← h' m j inside]
  simp only [List.mem_append, or_and_right, exists_or]

theorem single (valid : range.stop ≤ input.size) (holds : E → Bool) :
    (Outcomes.single input range holds).Spells input range.stop
      {word | ∃ e, holds e ∧ word = [e]} := by
  intro m j inside
  constructor
  · rintro ⟨m', member, rfl⟩
    have lt : m.position < range.stop := by
      by_contra beyond
      simp [Outcomes.single, next?, beyond] at member
    have bound := Nat.lt_of_lt_of_le lt valid
    rw [Outcomes.single, next?_eq lt bound, Option.any_some] at member
    split at member
    next right =>
      cases List.mem_singleton.mp member
      exact ⟨Nat.le_succ _, lt, _, right, slice_succ bound⟩
    · cases member
  · rintro ⟨le, below, e, right, word⟩
    have length := congrArg List.length word
    rw [length_slice (Nat.le_trans below valid), List.length_singleton] at length
    obtain rfl : j = m.position + 1 := by omega
    have bound := Nat.lt_of_lt_of_le below valid
    rw [slice_succ bound] at word
    cases List.singleton_inj.mp word
    refine ⟨{ m with position := m.position + 1 }, ?_, rfl⟩
    rw [Outcomes.single, next?_eq below bound, Option.any_some, if_pos right]
    exact List.mem_singleton_self _

theorem any (valid : range.stop ≤ input.size) :
    (Outcomes.any range).Spells input range.stop ({word | ∃ e, word = [e]} : Language E) := by
  intro m j inside
  have same : Outcomes.any range m = Outcomes.single input range (fun _ => true) m := by
    by_cases lt : m.position < range.stop
    · have bound := Nat.lt_of_lt_of_le lt valid
      simp [Outcomes.any, Outcomes.single, next?_eq lt bound, lt]
    · simp [Outcomes.any, Outcomes.single, next?, lt]
  have every : (Outcomes.single input range fun _ => true).Spells input range.stop
      ({word | ∃ e, word = [e]} : Language E) :=
    (single valid fun _ => true).congr fun word => by simp
  rw [same]
  exact every m j inside

variable [DecidableEq E]

theorem element (valid : range.stop ≤ input.size) (e : E) :
    (Outcomes.single input range (· = e)).Spells input range.stop {[e]} := by
  refine (single valid _).congr fun word => ⟨?_, ?_⟩
  · rintro ⟨e', right, rfl⟩
    cases of_decide_eq_true right
    rfl
  · rintro rfl
    exact ⟨e, decide_eq_true rfl, rfl⟩

theorem literal (valid : range.stop ≤ input.size) (elements : List E) :
    (Outcomes.literal input range elements).Spells input range.stop {elements} := by
  induction elements with
  | nil => exact stay valid
  | cons e rest ih =>
    refine ((element valid e).andThen valid ih).congr fun word => Language.mem_mul.trans ⟨?_, ?_⟩
    · rintro ⟨_, rfl, _, rfl, rfl⟩
      rfl
    · rintro rfl
      exact ⟨[e], rfl, rest, rfl, rfl⟩

/-! ### Repetitions -/

omit [DecidableEq E]

theorem times (valid : stop ≤ input.size) (h : o.Spells input stop l) (n : Nat) :
    (Outcomes.times o n).Spells input stop (l ^ n) := by
  induction n with
  | zero =>
    rw [pow_zero]
    exact stay valid
  | succ n ih =>
    rw [pow_succ']
    exact h.andThen valid ih

/-- Where a repetition goes on first does not matter. -/
theorem prefer (valid : stop ≤ input.size) {greedy : Bool} {more : Outcomes}
    (h : more.Spells input stop l) :
    Outcomes.Spells input stop (fun m => Outcomes.prefer greedy (more m) m) (l + 1) := by
  intro m j inside
  have both := h.orElse (stay valid) m j inside
  rw [← both]
  simp only [mem_prefer, List.mem_append, List.mem_singleton]

theorem upTo (valid : stop ≤ input.size) {greedy : Bool} (h : o.Spells input stop l) (n : Nat) :
    (Outcomes.upTo greedy o n).Spells input stop ((Amount.upTo n).powers l) := by
  induction n with
  | zero =>
    refine (stay valid).congr fun word => Iff.trans ?_ Amount.mem_upTo_powers.symm
    constructor
    · intro none
      exact ⟨0, Nat.le_refl 0, none⟩
    · rintro ⟨k, le, power⟩
      cases Nat.le_zero.mp le
      exact power
  | succ n ih =>
    refine (prefer valid (h.andThen valid ih)).congr fun word => ?_
    rw [Language.mem_add, Amount.mem_upTo_powers]
    constructor
    · rintro (more | none)
      · obtain ⟨u, first, v, rest, rfl⟩ := Language.mem_mul.mp more
        obtain ⟨k, le, power⟩ := Amount.mem_upTo_powers.mp rest
        refine ⟨k + 1, Nat.succ_le_succ le, ?_⟩
        rw [pow_succ']
        exact Language.append_mem_mul first power
      · exact ⟨0, Nat.zero_le _, none⟩
    · rintro ⟨k, le, power⟩
      cases k with
      | zero => exact .inr power
      | succ k =>
        rw [pow_succ', Language.mem_mul] at power
        obtain ⟨u, first, v, rest, cut⟩ := power
        have more := Amount.mem_upTo_powers.mpr ⟨k, Nat.le_of_succ_le_succ le, rest⟩
        exact .inl (Language.mem_mul.mpr ⟨u, first, v, more, cut⟩)

theorem mem_kstar_of_more {word : List E} (h : word ∈ l * l∗) : word ∈ l∗ := by
  rw [← Language.one_add_self_mul_kstar_eq_kstar]
  exact .inr h

/-- What the iterations of a loop lead to is a sequence of words. The induction is on what is left of the
range. -/
theorem mem_kstar_of_star {greedy : Bool} (h : o.Spells input stop l) {m m' : Moment}
    (inside : m.position ≤ stop) (member : m' ∈ Outcomes.star stop greedy o m) :
    m.position ≤ m'.position ∧ m'.position ≤ stop ∧
      slice input m.position m'.position ∈ l∗ := by
  generalize left : stop - m.position = n
  induction n using Nat.strongRecOn generalizing m with
  | _ n ih =>
    rw [Outcomes.star] at member
    rcases mem_prefer.mp member with member | rfl
    · obtain ⟨between, first, second⟩ := List.mem_flatMap.mp member
      obtain ⟨le, below, word⟩ := (h m _ inside).mp ⟨between, first, rfl⟩
      split at second
      next goes =>
        obtain ⟨le', below', word'⟩ := ih _ (by omega) below second rfl
        have both := Language.append_mem_mul word word'
        rw [slice_append le le'] at both
        exact ⟨Nat.le_trans le le', below', mem_kstar_of_more both⟩
      next =>
        cases List.mem_singleton.mp second
        rw [← List.append_nil (slice input m.position m'.position)]
        exact ⟨le, below,
          mem_kstar_of_more (Language.append_mem_mul word (Language.nil_mem_kstar l))⟩
    · refine ⟨Nat.le_refl _, inside, ?_⟩
      rw [slice_self]
      exact Language.nil_mem_kstar l

/-- Every sequence of words is found by iterations that get on, without the empty ones. The induction is
on the words. -/
theorem star_of_words {greedy : Bool} (valid : stop ≤ input.size) (h : o.Spells input stop l)
    {words : List (List E)} (right : ∀ word ∈ words, word ∈ l ∧ word ≠ []) {m : Moment} {j : Nat}
    (le : m.position ≤ j) (below : j ≤ stop) (cut : slice input m.position j = words.flatten) :
    ∃ m' ∈ Outcomes.star stop greedy o m, m'.position = j := by
  induction words generalizing m with
  | nil =>
    have back := le_of_slice_eq_nil (Nat.le_trans below valid) cut
    rw [Outcomes.star]
    exact ⟨m, mem_prefer.mpr (.inr rfl), Nat.le_antisymm le back⟩
  | cons word rest ih =>
    obtain ⟨wordRight, nonempty⟩ := right word List.mem_cons_self
    rw [List.flatten_cons] at cut
    obtain ⟨mid, above, before, here, there⟩ := slice_eq_append le (Nat.le_trans below valid) cut
    have moved : m.position < mid := by
      rcases Nat.eq_or_lt_of_le above with rfl | lt
      · exact absurd (here.symm.trans (slice_self _)) nonempty
      · exact lt
    have inside := Nat.le_trans le below
    obtain ⟨between, member, rfl⟩ :=
      (h m mid inside).mpr ⟨above, Nat.le_trans before below, here ▸ wordRight⟩
    obtain ⟨m', member', there⟩ :=
      ih (fun word member => right word (List.mem_cons_of_mem _ member)) before there
    refine ⟨m', ?_, there⟩
    rw [Outcomes.star]
    refine mem_prefer.mpr (.inl (List.mem_flatMap.mpr ⟨between, member, ?_⟩))
    rwa [if_pos ⟨moved, Nat.le_trans before below⟩]

theorem star (valid : stop ≤ input.size) {greedy : Bool} (h : o.Spells input stop l) :
    Outcomes.Spells input stop (Outcomes.star stop greedy o) l∗ := by
  intro m j inside
  constructor
  · rintro ⟨m', member, rfl⟩
    exact h.mem_kstar_of_star inside member
  · rintro ⟨le, below, word⟩
    obtain ⟨words, cut, right⟩ := Language.mem_kstar_iff_exists_nonempty.mp word
    exact h.star_of_words valid right le below cut

/-- A body that may not take part does not matter. -/
theorem repeated_never (valid : range.stop ≤ input.size) {greedy : Bool} {amount : Amount}
    (ordered : amount.Ordered) (never : amount.most = some 0) :
    (Outcomes.repeated range amount.least amount.most greedy o).Spells input range.stop
      (amount.powers l) := by
  have least : amount.least = 0 := Nat.le_zero.mp (ordered 0 never)
  have same : Outcomes.repeated range amount.least amount.most greedy o = fun m => [m] := by
    rw [least, never]
    rfl
  rw [same]
  refine (stay valid).congr fun word => ?_
  rw [Amount.mem_powers, never, least]
  constructor
  · intro none
    exact ⟨0, Nat.le_refl 0, fun _ _ => Nat.zero_le _, none⟩
  · rintro ⟨k, -, most_ge, power⟩
    cases Nat.le_zero.mp (most_ge 0 rfl)
    exact power

theorem repeated (valid : range.stop ≤ input.size) {greedy : Bool} {amount : Amount}
    (ordered : amount.Ordered) (h : o.Spells input range.stop l) :
    (Outcomes.repeated range amount.least amount.most greedy o).Spells input range.stop
      (amount.powers l) := by
  unfold Outcomes.repeated
  cases bound : amount.most with
  | none =>
    refine ((h.times valid amount.least).andThen valid (h.star valid)).congr fun word => ?_
    rw [Language.kstar_eq_iSup_pow, Language.mul_iSup, Language.mem_iSup, Amount.mem_powers, bound]
    constructor
    · rintro ⟨k, power⟩
      rw [← pow_add] at power
      exact ⟨amount.least + k, Nat.le_add_right _ _, nofun, power⟩
    · rintro ⟨k, le, -, power⟩
      refine ⟨k - amount.least, ?_⟩
      rwa [← pow_add, Nat.add_sub_cancel' le]
  | some most =>
    have most_le := ordered most bound
    refine ((h.times valid amount.least).andThen valid (h.upTo valid _)).congr fun word => ?_
    rw [Language.mem_mul, Amount.mem_powers, bound]
    constructor
    · rintro ⟨u, first, v, rest, rfl⟩
      obtain ⟨k, le, power⟩ := Amount.mem_upTo_powers.mp rest
      refine ⟨amount.least + k, Nat.le_add_right _ _, fun bound' same => ?_, ?_⟩
      · cases same
        omega
      · rw [pow_add]
        exact Language.append_mem_mul first power
    · rintro ⟨k, le, most_ge, power⟩
      have most_ge := most_ge most rfl
      rw [← Nat.add_sub_cancel' le, pow_add, Language.mem_mul] at power
      obtain ⟨u, first, v, rest, cut⟩ := power
      exact ⟨u, first, v, Amount.mem_upTo_powers.mpr ⟨k - amount.least, by omega, rest⟩, cut⟩

theorem repetition (valid : range.stop ≤ input.size) {amount : Amount} (ordered : amount.Ordered)
    {preference : Preference} (gives : preference ≠ .possessive)
    (h : amount.most ≠ some 0 → o.Spells input range.stop l) :
    (Outcomes.repetition range amount preference o).Spells input range.stop (amount.powers l) := by
  have either (greedy : Bool) : (Outcomes.repeated range amount.least amount.most greedy o).Spells
      input range.stop (amount.powers l) := by
    by_cases never : amount.most = some 0
    · exact repeated_never valid ordered never
    · exact repeated valid ordered (h never)
  cases preference with
  | greedy => exact either true
  | reluctant => exact either false
  | possessive => exact absurd rfl gives

theorem capture (h : o.Spells input stop l) (index : Nat) :
    (Outcomes.capture index o).Spells input stop l := by
  intro m j inside
  rw [← h m j inside]
  simp only [Outcomes.capture, List.mem_map, exists_exists_and_eq_and]
  rfl

end Outcomes.Spells

end PatternMachine

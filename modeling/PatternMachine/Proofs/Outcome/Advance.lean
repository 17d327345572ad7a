import PatternMachine.Proofs.Outcome.Unfolding
import PatternMachine.Proofs.Safety.Construct

/-! Ways to match never go back and never leave the range, and those of a pattern that cannot match empty
go on, if what the pattern refers to does not go back. This is why the guard in the meaning of loops is no
restriction. -/
namespace PatternMachine

/-- Every known outcome is at or behind the position, and behind it unless the ways are `nullable`. -/
def Ways.Advances (stop : Nat) (nullable : Bool) (w : Ways) : Prop :=
  ∀ m m', m.position ≤ stop → m' ∈ (w m).known →
    m.position ≤ m'.position ∧ m'.position ≤ stop ∧ (nullable = false → m.position < m'.position)

namespace Ways.Advances

variable {E : Type} {input : Array E} {range : Span} {stop : Nat} {nullable nullable' : Bool}
  {body body' : Ways}

theorem next?_lt {position : Nat} {e : E} (h : Outcomes.next? input range position = some e) :
    position < range.stop := by
  unfold Outcomes.next? at h
  split at h
  · assumption
  · cases h

/-- All that is asked of ways that may stay. -/
theorem of_le (h : ∀ m m', m.position ≤ stop → m' ∈ (body m).known →
    m.position ≤ m'.position ∧ m'.position ≤ stop) : body.Advances stop true := by
  intro m m' inside member
  obtain ⟨above, below⟩ := h m m' inside member
  exact ⟨above, below, nofun⟩

theorem weaken (h : body.Advances stop nullable) : body.Advances stop true :=
  of_le fun m m' inside member => ⟨(h m m' inside member).1, (h m m' inside member).2.1⟩

theorem all {o : Outcomes}
    (h : ∀ m m', m.position ≤ stop → m' ∈ o m → m.position ≤ m'.position ∧ m'.position ≤ stop ∧
      (nullable = false → m.position < m'.position)) : (Ways.all o).Advances stop nullable := by
  intro m m' inside member
  rw [Ways.all, Unfolding.known_ofList] at member
  exact h m m' inside member

theorem stay : (Ways.all fun m => [m]).Advances stop true := by
  refine all fun m m' inside member => ?_
  cases List.mem_singleton.mp member
  exact ⟨Nat.le_refl _, inside, nofun⟩

theorem stay_or_not {holds : Moment → Prop} [DecidablePred holds] :
    (Ways.all fun m => if holds m then [m] else []).Advances stop true := by
  refine all fun m m' inside member => ?_
  split at member
  · cases List.mem_singleton.mp member
    exact ⟨Nat.le_refl _, inside, nofun⟩
  · cases member

theorem andThen (h : body.Advances stop nullable) (h' : body'.Advances stop nullable') :
    (Ways.andThen body body').Advances stop (nullable && nullable') := by
  intro m m' inside member
  obtain ⟨between, first, second⟩ := Unfolding.known_bind member
  obtain ⟨above, below, goes⟩ := h m between inside first
  obtain ⟨above', below', goes'⟩ := h' between m' below second
  refine ⟨Nat.le_trans above above', below', fun one => ?_⟩
  rcases Bool.and_eq_false_iff.mp one with one | one
  · exact Nat.lt_of_lt_of_le (goes one) above'
  · exact Nat.lt_of_le_of_lt above (goes' one)

theorem single (holds : E → Bool) :
    (Ways.all (Outcomes.single input range holds)).Advances range.stop false := by
  refine all fun m m' inside member => ?_
  simp only [Outcomes.single] at member
  split at member
  next found =>
    obtain ⟨e, known, -⟩ := (Option.any_eq_true _ _).mp found
    cases List.mem_singleton.mp member
    exact ⟨Nat.le_succ _, next?_lt known, fun _ => Nat.lt_succ_self _⟩
  · cases member

theorem any : (Ways.all (Outcomes.any range)).Advances range.stop false := by
  refine all fun m m' inside member => ?_
  simp only [Outcomes.any] at member
  split at member
  next below =>
    cases List.mem_singleton.mp member
    exact ⟨Nat.le_succ _, below, fun _ => Nat.lt_succ_self _⟩
  · cases member

theorem literal [DecidableEq E] (elements : List E) :
    (Ways.all (Outcomes.literal input range elements)).Advances range.stop elements.isEmpty := by
  induction elements with
  | nil => exact stay
  | cons e rest ih =>
    intro m m' inside member
    have first : (Ways.all (Outcomes.single input range (· = e))).Advances range.stop false :=
      single _
    have both := first.andThen ih m m' inside
    rw [Ways.all_andThen (fun _ => rfl) fun _ => rfl] at both
    exact both member

theorem consumer {f : ConsumeFunction E} (bounded : f.Bounded) (valid : range.stop ≤ input.size) :
    (Ways.all (Outcomes.consumer input range f)).Advances range.stop true := by
  refine all fun m m' inside member => ?_
  simp only [Outcomes.consumer] at member
  split at member
  · cases member
  next position eq =>
    cases List.mem_singleton.mp member
    obtain ⟨above, below⟩ := bounded input ⟨m.position, range.stop⟩ position inside valid eq
    exact ⟨above, below, nofun⟩

theorem mem_prefer {greedy : Bool} {more : Unfolding} {m m' : Moment}
    (member : m' ∈ (Ways.prefer greedy more m).known) : m' ∈ more.known ∨ m' = m := by
  cases greedy with
  | true => exact (Unfolding.known_append member).imp_right List.mem_singleton.mp
  | false => exact (List.mem_cons.mp member).symm

theorem prefer {greedy : Bool} {more : Ways} (h : more.Advances stop nullable) :
    Ways.Advances stop true fun m => Ways.prefer greedy (more m) m := by
  refine of_le fun m m' inside member => ?_
  rcases mem_prefer member with member | rfl
  · obtain ⟨above, below, -⟩ := h m m' inside member
    exact ⟨above, below⟩
  · exact ⟨Nat.le_refl _, inside⟩

theorem orElse (h : body.Advances stop nullable) (h' : body'.Advances stop nullable') :
    Ways.Advances stop (nullable || nullable') fun m => (body m).append (body' m) := by
  intro m m' inside member
  have apart : (nullable || nullable') = false → nullable = false ∧ nullable' = false :=
    Bool.or_eq_false_iff.mp
  rcases Unfolding.known_append member with member | member
  · obtain ⟨above, below, goes⟩ := h m m' inside member
    exact ⟨above, below, fun neither => goes (apart neither).1⟩
  · obtain ⟨above, below, goes⟩ := h' m m' inside member
    exact ⟨above, below, fun neither => goes (apart neither).2⟩

theorem times (h : body.Advances stop nullable) (n : Nat) :
    (Ways.times body n).Advances stop (n == 0 || nullable) := by
  induction n with
  | zero => exact stay
  | succ n ih =>
    intro m m' inside member
    obtain ⟨above, below, goes⟩ := h.andThen ih m m' inside member
    refine ⟨above, below, fun one => goes ?_⟩
    have one : nullable = false := one
    rw [one, Bool.false_and]

theorem upTo {greedy : Bool} (h : body.Advances stop nullable) (n : Nat) :
    (Ways.upTo greedy body n).Advances stop true := by
  induction n with
  | zero => exact stay
  | succ n ih => exact prefer (h.andThen ih)

theorem star {greedy : Bool} (h : body.Advances stop nullable) :
    Ways.Advances stop true (Ways.star stop greedy body) := by
  refine of_le fun m => ?_
  -- The induction is on what is left of the range.
  generalize left : stop - m.position = n
  induction n using Nat.strongRecOn generalizing m with
  | _ n ih =>
    intro m' inside member
    rw [Ways.star] at member
    rcases mem_prefer member with member | rfl
    · obtain ⟨between, first, second⟩ := Unfolding.known_bind member
      obtain ⟨above, below, -⟩ := h m between inside first
      by_cases goes : m.position < between.position ∧ between.position ≤ stop
      · rw [if_pos goes] at second
        have less : stop - between.position < n := by omega
        obtain ⟨above', below'⟩ := ih _ less between rfl m' below second
        exact ⟨Nat.le_trans above above', below'⟩
      · rw [if_neg goes] at second
        cases List.mem_singleton.mp second
        exact ⟨above, below⟩
    · exact ⟨Nat.le_refl _, inside⟩

theorem repeated {greedy : Bool} (h : body.Advances range.stop nullable) (least : Nat)
    (most : Option Nat) : (Ways.repeated range least most greedy body).Advances range.stop
      (least == 0 || nullable) := by
  cases most with
  | none =>
    have rest : Ways.Advances range.stop true (Ways.star range.stop greedy body) := h.star
    have both := (h.times least).andThen rest
    rw [Bool.and_true] at both
    exact both
  | some most =>
    have rest : (Ways.upTo greedy body (most - least)).Advances range.stop true := h.upTo _
    have both := (h.times least).andThen rest
    rw [Bool.and_true] at both
    exact both

theorem atomic (h : body.Advances stop nullable) : (Ways.atomic body).Advances stop nullable :=
  fun m m' inside member => h m m' inside (Unfolding.known_first member)

theorem repetition (h : body.Advances range.stop nullable) (amount : Amount)
    (preference : Preference) :
    (Ways.repetition range amount preference body).Advances range.stop
      (amount.least == 0 || nullable) := by
  cases preference with
  | greedy => exact h.repeated amount.least amount.most
  | reluctant => exact h.repeated amount.least amount.most
  | possessive => exact (h.repeated amount.least amount.most).atomic

theorem capture (h : body.Advances stop nullable) (index : Nat) :
    (Ways.capture index body).Advances stop nullable := by
  intro m m' inside member
  obtain ⟨inner, found, rfl⟩ := Unfolding.known_map member
  exact h m inner inside found

theorem lookahead (kind : Lookahead) : (Ways.lookahead kind body).Advances stop true := by
  refine of_le fun m m' inside member => ?_
  cases Unfolding.known_assertion member
  exact ⟨Nat.le_refl _, inside⟩

theorem anchor (a : Anchor) : (Ways.all (Outcomes.anchor range a)).Advances stop true := by
  cases a with
  | start => exact stay_or_not
  | stop => exact stay_or_not

theorem backreference [DecidableEq E] (index : Nat) :
    (Ways.all (Outcomes.backreference input range index)).Advances range.stop true := by
  refine all fun m m' inside member => ?_
  simp only [Outcomes.backreference] at member
  split at member
  · cases member
  · split at member
    next fits =>
      cases List.mem_singleton.mp member
      exact ⟨Nat.le_add_right _ _, fits.1, nofun⟩
    · cases member

end Ways.Advances

namespace Pattern

open Ways.Advances

variable {E : Type} [DecidableEq E] {input : Array E} {range : Span} {call : String → Ways}

mutual

/-- A pattern that cannot match empty goes on with every outcome. -/
theorem ways_advance (calls : ∀ name, (call name).Advances range.stop true) (q : Pattern E)
    (bounded : q.Consumers ConsumeFunction.Bounded) (valid : range.stop ≤ input.size) :
    (q.ways input range call).Advances range.stop q.canMatchEmpty := by
  cases q with
  | empty => exact stay
  | any => exact .any
  | element e => exact .single _
  | literal elements => exact .literal elements
  | predicate f => exact .single f
  | consumer f => exact .consumer bounded valid
  | concat parts => exact waysInSequence_advance calls parts bounded valid
  | alternation branches => exact alternativeWays_advance calls branches bounded valid
  | repetition amount preference body =>
    exact (ways_advance calls body bounded valid).repetition amount preference
  | capture index name body => exact (ways_advance calls body bounded valid).capture index
  | reference name => exact calls name
  | lookahead kind body => exact .lookahead kind
  | atomic body => exact (ways_advance calls body bounded valid).atomic
  | anchor a => exact .anchor a
  | backreference index => exact .backreference index

theorem waysInSequence_advance (calls : ∀ name, (call name).Advances range.stop true)
    (parts : List (Pattern E)) (bounded : AllConsumers ConsumeFunction.Bounded parts)
    (valid : range.stop ≤ input.size) :
    (waysInSequence input range call parts).Advances range.stop (allCanMatchEmpty parts) := by
  cases parts with
  | nil => exact stay
  | cons q rest =>
    have first := ways_advance calls q bounded.1 valid
    exact first.andThen (waysInSequence_advance calls rest bounded.2 valid)

theorem alternativeWays_advance (calls : ∀ name, (call name).Advances range.stop true)
    (branches : List (Pattern E)) (bounded : AllConsumers ConsumeFunction.Bounded branches)
    (valid : range.stop ≤ input.size) :
    (alternativeWays input range call branches).Advances range.stop (anyCanMatchEmpty branches) := by
  cases branches with
  | nil => exact nofun
  | cons q rest =>
    have first := ways_advance calls q bounded.1 valid
    exact first.orElse (alternativeWays_advance calls rest bounded.2 valid)

end

end Pattern

end PatternMachine

import PatternMachine.Proofs.Outcome.Advance

/-! Outcomes that are the same up to the end of the range. The constructs keep them so, as long as the
outcomes of the body stay in the range. -/
namespace PatternMachine

namespace Outcomes

/-- Nothing leaves the range. -/
def Stays (last : Nat) (o : Outcomes) : Prop :=
  ∀ m m', m.position ≤ last → m' ∈ o m → m'.position ≤ last

def Agree (last : Nat) (o o' : Outcomes) : Prop := ∀ m, m.position ≤ last → o m = o' m

namespace Agree

variable {last : Nat} {o o' p p' : Outcomes}

theorem andThen (first : Agree last o o') (stays : o.Stays last) (second : Agree last p p') {m : Moment}
    (inside : m.position ≤ last) : (o m).flatMap p = (o' m).flatMap p' := by
  rw [← first m inside]
  exact List.flatMap_congr fun m' member => second m' (stays m m' inside member)

theorem times (body : Agree last o o') (stays : o.Stays last) (n : Nat) :
    Agree last (Outcomes.times o n) (Outcomes.times o' n) := by
  induction n with
  | zero => exact fun m _ => rfl
  | succ n ih => exact fun m inside => body.andThen stays ih inside

theorem upTo (body : Agree last o o') (stays : o.Stays last) (greedy : Bool) (n : Nat) :
    Agree last (Outcomes.upTo greedy o n) (Outcomes.upTo greedy o' n) := by
  induction n with
  | zero => exact fun m _ => rfl
  | succ n ih =>
    intro m inside
    rw [Outcomes.upTo, Outcomes.upTo, body.andThen stays ih inside]

theorem star (body : Agree last o o') (stays : o.Stays last) (greedy : Bool) :
    Agree last (Outcomes.star last greedy o) (Outcomes.star last greedy o') := by
  intro m inside
  -- The induction is on what is left of the range.
  generalize left : last - m.position = n
  induction n using Nat.strongRecOn generalizing m with
  | _ n ih =>
    rw [Outcomes.star, Outcomes.star]
    congr 1
    refine (List.flatMap_congr fun m' member => ?_).trans (congrArg _ (body m inside))
    have below := stays m m' inside member
    split
    next goes => exact ih (last - m'.position) (by omega) m' below rfl
    · rfl

end Agree

theorem Stays.times {last : Nat} {o : Outcomes} (stays : o.Stays last) (n : Nat) :
    (Outcomes.times o n).Stays last := by
  induction n with
  | zero =>
    intro m m' inside member
    cases List.mem_singleton.mp member
    exact inside
  | succ n ih =>
    intro m m' inside member
    obtain ⟨between, first, second⟩ := List.mem_flatMap.mp member
    exact ih between m' (stays m between inside first) second

theorem Agree.repeated {range : Span} {o o' : Outcomes} (body : Agree range.stop o o')
    (stays : o.Stays range.stop) (least : Nat) (most : Option Nat) (greedy : Bool) :
    Agree range.stop (Outcomes.repeated range least most greedy o)
      (Outcomes.repeated range least most greedy o') := by
  intro m inside
  have first := body.times stays least
  cases most with
  | none => exact first.andThen (stays.times least) (body.star stays greedy) inside
  | some most => exact first.andThen (stays.times least) (body.upTo stays greedy _) inside

end Outcomes

/-- The outcomes of a pattern whose consumers stay in their ranges are in the range. -/
theorem Pattern.outcomes_stay {E : Type} [DecidableEq E] {input : Array E} {range : Span}
    {q : Pattern E} (bounded : q.Consumers ConsumeFunction.Bounded)
    (valid : range.stop ≤ input.size) : (q.outcomes input range).Stays range.stop := by
  intro m m' inside member
  have calls : ∀ name : String, Ways.Advances range.stop true ((fun _ _ => .done) name) :=
    fun name m m' _ member => nomatch member
  have known := ways_advance calls q bounded valid m m' inside
  rw [ways_eq_outcomes, Ways.all, Unfolding.known_ofList] at known
  exact (known member).2.1

end PatternMachine

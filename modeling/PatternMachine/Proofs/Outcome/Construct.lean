import PatternMachine.Proofs.Outcome.Advance
import PatternMachine.Proofs.Outcome.Piece

/-! The code of every construct implements the ways of the construct to match, if the code of its body
implements those of the body. -/
namespace PatternMachine

variable {E : Type} [DecidableEq E] {s : Search E}

/-- Code of the shape keeps to itself and implements the ways. -/
structure Shape.Means (s : Search E) (shape : Shape) (o : Ways) : Prop where
  closed : shape.Closed s.program True
  implements : ∀ lo hi, shape lo hi → s.Implements (s.program.footprint lo hi) lo hi o

namespace Shape.Means

variable {shape shape' body : Shape} {o o' : Ways} {lo hi : Nat}

/-- Inside larger code. -/
theorem within (h : shape.Means s o) {lo' hi' : Nat} (placed : shape lo' hi') (le : lo ≤ lo')
    (le' : hi' ≤ hi) : s.Implements (s.program.footprint lo hi) lo' hi' o :=
  fun t m stands => (h.implements lo' hi' placed t m stands).mono (Program.footprint_le le le')

/-- Only positions of the range count. -/
theorem congr (h : shape.Means s o) (same : ∀ m, s.Inside m.position → o m = o' m) :
    shape.Means s o' where
  closed := h.closed
  implements lo hi placed t m stands := by
    have inside : s.Inside m.position := stands.position ▸ stands.within.config.inside
    rw [← same m inside]
    exact h.implements lo hi placed t m stands

theorem nothing : Shape.nothing.Means s (.all fun m => [m]) where
  closed := .nothing
  implements := by
    rintro lo _ rfl t m stands
    exact .once (.refl _) stands (.refl t)

theorem andThen (h : shape.Means s o) (h' : shape'.Means s o') :
    (Shape.andThen shape shape').Means s (o.andThen o') where
  closed := h.closed.andThen h'.closed
  implements := by
    rintro lo hi ⟨mid, first, second⟩ t m stands
    have le := (h.closed lo mid first).le
    have le' := (h'.closed mid hi second).le
    have smaller := s.program.footprint_le (Nat.le_refl lo) le'
    refine (h.implements lo mid first t m stands).bind smaller fun t' own m' _ stands' _ => ?_
    exact h'.within second le (Nat.le_refl _) t' m' stands'

/-! ### Single instructions -/

theorem single {means : Operation → Prop} {o : Outcomes}
    (closed : (Shape.single s.program means).Closed s.program True)
    (h : ∀ op, means op → ∀ (t : Thread) i m, t.At s i m →
      (s.effect t.config op = .backtrack ∧ o m = []) ∨
        ∃ position, s.effect t.config op = .go t.config.pc.next position ∧
          o m = [{ m with position }]) : (Shape.single s.program means).Means s (.all o) where
  closed := closed
  implements := by
    rintro lo _ ⟨rfl, op, known, meaning⟩
    exact .single known fun t m stands => h op meaning t lo m stands

omit [DecidableEq E] in
/-- An instruction that consumes an element if it is right. -/
theorem consumption {t : Thread} {i : Nat} {m : Moment} (stands : t.At s i m) (holds : E → Bool) :
    let effect := Search.consumption t.config ((s.load t.config.position).any holds)
    (effect = .backtrack ∧ Outcomes.single s.input s.range holds m = []) ∨
      ∃ position, effect = .go t.config.pc.next position ∧
        Outcomes.single s.input s.range holds m = [{ m with position }] := by
  have same : Outcomes.next? s.input s.range m.position = s.load t.config.position := by
    rw [stands.position]
    rfl
  unfold Outcomes.single Search.consumption
  rw [same]
  by_cases right : (s.load t.config.position).any holds
  · rw [if_pos right, if_pos right]
    exact .inr ⟨_, rfl, by rw [stands.position]⟩
  · rw [if_neg right, if_neg right]
    exact .inl ⟨rfl, rfl⟩

theorem element (e : E) :
    (Shape.element s.program e).Means s (.all (Outcomes.single s.input s.range (· = e))) := by
  refine single (.element e) ?_
  rintro _ ⟨r, rfl, known⟩ t i m stands
  have same : decide (s.load t.config.position = some e) =
      (s.load t.config.position).any (· = e) := by
    cases s.load t.config.position with
    | none => rfl
    | some e' => simp
  simp only [Search.effect, known, same]
  exact consumption stands _

theorem literal (elements : List E) : (Shape.literal s.program elements).Means s
    (.all (Outcomes.literal s.input s.range elements)) := by
  induction elements with
  | nil => exact nothing
  | cons e rest ih =>
    exact ((element e).andThen ih).congr fun m _ => Ways.all_andThen (fun _ => rfl) (fun _ => rfl) m

theorem predicate (f : E → Bool) :
    (Shape.predicate s.program f).Means s (.all (Outcomes.single s.input s.range f)) := by
  refine single (.predicate f) ?_
  rintro _ ⟨r, rfl, known⟩ t i m stands
  simp only [Search.effect, known]
  exact consumption stands _

theorem any :
    (Shape.single s.program (· = .consume ⟨1⟩)).Means s (.all (Outcomes.any s.range)) := by
  refine single (.single (by simp) (by simp)) ?_
  rintro _ rfl t i m stands
  have inside := stands.within.config.inside
  simp only [Search.effect, Search.remaining_ok inside, Outcomes.any, ← stands.position]
  by_cases left : t.config.position < s.range.stop
  · have enough : 1 ≤ s.range.stop - t.config.position := by omega
    rw [if_pos left, if_pos enough]
    exact .inr ⟨_, rfl, rfl⟩
  · have beyond : ¬1 ≤ s.range.stop - t.config.position := by omega
    rw [if_neg left, if_neg beyond]
    exact .inl ⟨rfl, rfl⟩

theorem fail : (Shape.single s.program (· = .fail)).Means s (.all fun _ => []) := by
  refine single (.single (by simp) (by simp)) ?_
  rintro _ rfl t i m -
  exact .inl ⟨rfl, rfl⟩

theorem consumer {f : ConsumeFunction E} (bounded : f.Bounded)
    (valid : s.range.stop ≤ s.input.size) :
    (Shape.consumer s.program f).Means s (.all (Outcomes.consumer s.input s.range f)) := by
  refine single (.consumer f) ?_
  rintro _ ⟨r, rfl, known⟩ t i m stands
  have inside := stands.within.config.inside
  simp only [Search.effect, known, Outcomes.consumer, ← stands.position]
  cases eq : f s.input ⟨t.config.position, s.range.stop⟩ with
  | none => exact .inl ⟨rfl, rfl⟩
  | some position =>
    have between := bounded s.input ⟨t.config.position, s.range.stop⟩ position inside.2 valid eq
    refine .inr ⟨position, ?_, rfl⟩
    exact if_pos between

theorem backreference {register : CaptureRegister} (valid : s.range.stop ≤ s.input.size) :
    (Shape.backreference s.program register).Means s
      (.all (Outcomes.backreference s.input s.range register.index)) := by
  refine single (.backreference register) ?_
  rintro _ ⟨rfl, bound⟩ t i m stands
  have within := stands.within.config
  obtain ⟨⟨starts, value⟩, known⟩ := Search.getElem?_of_lt bound within.registers.captures
  have same : m.captures[register.index]?.join = value := by
    rw [← stands.captures, Registers.values_getElem?, known]
    rfl
  simp only [Search.effect, known, Outcomes.backreference, same]
  cases value with
  | none => exact .inl ⟨rfl, rfl⟩
  | some captured =>
    obtain ⟨-, ordered, le⟩ := within.registers.values _ _ captured known rfl
    simp only [Search.repeats_eq within valid ordered le, ← stands.position]
    by_cases again : t.config.position + captured.length ≤ s.range.stop ∧
        s.input.extract captured.start captured.stop =
          s.input.extract t.config.position (t.config.position + captured.length)
    · rw [if_pos again]
      simp only [again, and_self, decide_true]
      exact .inr ⟨_, rfl, rfl⟩
    · rw [if_neg again]
      simp only [again, decide_false]
      exact .inl ⟨trivial, trivial⟩

/-! ### Code around a body -/

theorem wrapped {g : Moment → Unfolding → Unfolding} (h : body.Means s o)
    (closed : shape.Closed s.program True)
    (wraps : ∀ lo hi, shape lo hi → ∃ lo' mid, body lo' mid ∧ s.Wraps lo hi lo' mid g) :
    shape.Means s fun m => g m (o m) where
  closed := closed
  implements lo hi placed t m stands := by
    obtain ⟨lo', mid, inner, wraps⟩ := wraps lo hi placed
    obtain ⟨t', stands', turns⟩ := wraps t m stands
    exact turns _ (h.implements lo' mid inner t' m stands')

theorem atomic (h : body.Means s o) : (Shape.atomic s.program body).Means s (.atomic o) :=
  h.wrapped h.closed.atomic fun _ _ placed => ⟨_, Search.Wraps.atomic placed⟩

theorem lookahead {kind : Lookahead} (h : body.Means s o) :
    (Shape.lookahead s.program kind body).Means s (.lookahead kind o) :=
  h.wrapped h.closed.lookahead fun _ _ placed => ⟨_, Search.Wraps.lookahead placed⟩

theorem capture {register : CaptureRegister} (h : body.Means s o) :
    (Shape.capture s.program register body).Means s (.capture register.index o) :=
  h.wrapped h.closed.capture fun _ _ placed => ⟨_, Search.Wraps.capture placed⟩

/-! ### Choices -/

theorem branch (h : body.Means s o) {next : Nat} (placed : Shape.branch s.program hi body lo next)
    (le : next ≤ hi) (rest : s.Implements (s.program.footprint next hi) next hi o') :
    s.Implements (s.program.footprint lo hi) lo hi fun m => (o m).append (o' m) := by
  obtain ⟨mid, inner, tries⟩ := Yields.branches h.closed placed le
  intro t m stands
  obtain ⟨t', t'', stands', stands'', turns⟩ := tries t m stands
  exact turns _ _ (h.implements _ _ inner t' m stands') (rest t'' m stands'')

theorem mandatory (h : body.Means s o) (n : Nat) :
    (Shape.mandatory body n).Means s (Ways.times o n) := by
  induction n with
  | zero => exact nothing
  | succ n ih => exact h.andThen ih

theorem optional {greedy : Bool} (h : body.Means s o) (n : Nat)
    (placed : Shape.optional s.program greedy hi body n lo hi) :
    s.Implements (s.program.footprint lo hi) lo hi (Ways.upTo greedy o n) := by
  induction n generalizing lo with
  | zero => exact nothing.implements lo hi placed
  | succ n ih =>
    have closed := h.closed.optional (n + 1) lo hi placed
    obtain ⟨first, chosen, second, inner, rest⟩ := placed
    have lt := Program.lt_of_choice chosen
    have le := (h.closed _ _ inner).le
    have le' := (h.closed.optional n second hi rest).le
    intro t m stands
    obtain ⟨t', stands', turns⟩ := Yields.prefer chosen closed (by omega) stands
    have smaller := s.program.footprint_le (Nat.le_of_lt lt) le'
    refine turns _ ((h.implements _ _ inner t' m stands').bind smaller ?_)
    intro t'' own m' _ stands'' _
    exact (ih rest t'' m' stands'').mono (Program.footprint_le (by omega) (Nat.le_refl hi))

theorem upTo {greedy : Bool} (h : body.Means s o) (n : Nat) :
    (Shape.upTo s.program n greedy body).Means s (Ways.upTo greedy o n) where
  closed := h.closed.upTo n
  implements _ _ placed := h.optional n placed

/-! ### Loops -/

/-- One iteration: those that get on go to `last`, from where `k` says what follows. -/
def Iterates (s : Search E) (f : Footprint) (first last hi : Nat) (o : Ways) : Prop :=
  ∀ (t : Thread) m (k : Ways), t.At s first m →
    (∀ (t' : Thread) m', t'.At s last m' → m.position < m'.position → m'.position ≤ s.range.stop →
      Yields s f hi t' (k m') (.next t')) →
    Yields s f hi t ((o m).bind fun m' =>
      if m.position < m'.position ∧ m'.position ≤ s.range.stop then k m' else .ofList [m']) (.next t)

/-- The loop, from what one iteration does. The induction is on what is left of the range. -/
theorem loop {greedy : Bool} {first last : Nat}
    (chosen : Shape.choice s.program greedy (last + 1) lo first)
    (closed : s.program.Closed True lo (last + 1)) (le : first ≤ last)
    (iterates : Iterates s (s.program.footprint lo (last + 1)) first last (last + 1) o)
    (back : s.program.operation? last = some (.branch ⟨lo⟩)) :
    s.Implements (s.program.footprint lo (last + 1)) lo (last + 1)
      (Ways.star s.range.stop greedy o) := by
  have lt := Program.lt_of_choice chosen
  intro t m
  generalize left : s.range.stop - m.position = n
  induction n using Nat.strongRecOn generalizing t m with
  | _ n ih =>
    intro stands
    rw [Ways.star]
    obtain ⟨t', stands', turns⟩ := Yields.prefer chosen closed (by omega) stands
    refine turns _ (iterates t' m _ stands' fun t'' m' stands'' goes inside => ?_)
    have less : s.range.stop - m'.position < n := by omega
    exact .branch stands'' back (ih _ less _ m' rfl (stands''.jump ⟨lo⟩))

/-- Iterations of a body that always gets on. -/
theorem iterates_plain (h : body.Means s o) (advances : o.Advances s.range.stop false)
    {first last : Nat} (placed : body first last) (le : lo ≤ first) (le' : last ≤ hi) :
    Iterates s (s.program.footprint lo hi) first last hi o := by
  intro t m k stands goes
  have inside := stands.position ▸ stands.within.config.inside
  refine (h.implements _ _ placed t m stands).bind (Program.footprint_le le le') ?_
  intro t' own m' member stands' _
  obtain ⟨-, below, above⟩ := advances m m' inside.2 member
  rw [if_pos ⟨above rfl, below⟩]
  exact goes t' m' stands' (above rfl) below

/-- Iterations that are checked. The body calls nothing, so nothing else sets the register. -/
theorem iterates_checked (h : body.Means s o) (quiet : body.Closed s.program False)
    {first last : Nat} {register : PositionRegister}
    (placed : Shape.iteration s.program register hi body first last) (le : lo ≤ first)
    (le' : last ≤ hi) : Iterates s (s.program.footprint lo hi) first last hi o := by
  obtain ⟨mid, stuck, begins, inner, compare, leave, rfl, bound, bound', unset⟩ := placed
  intro t m k stands goes
  have between := (h.closed _ _ inner).le
  have sets : (s.program.footprint lo hi).sets register := .inl ⟨first, le, by omega, begins⟩
  obtain ⟨t₁, moved, stands₁, leaves₁, noted⟩ := stands.movePosition begins bound sets
  refine .reached (.move moved) (.rebase ?_ leaves₁)
  have smaller := s.program.footprint_le (by omega : lo ≤ first + 1) (by omega : mid ≤ hi)
  refine (h.implements _ _ inner t₁ m stands₁).bind smaller ?_
  intro t' own m' _ stands' leaves'
  have above : m.position ≤ m'.position := by
    have forward := leaves'.forward
    rwa [stands₁.position, stands'.position] at forward
  have below : m'.position ≤ s.range.stop := stands'.position ▸ stands'.within.config.inside.2
  have started : t'.config.registers.positions[register.index]? = some m.position := by
    rcases leaves'.positions register with same | ⟨set, -⟩
    · exact same.trans noted
    · exact absurd set ((quiet _ _ inner).unset unset)
  obtain ⟨t'', reach, leaves'', stands''⟩ :=
    stands'.checkPosition compare leave bound' started
  by_cases same : m.position = m'.position
  · rw [if_pos same] at stands''
    rw [if_neg (by omega)]
    exact .once reach stands'' leaves''
  · rw [if_neg same] at stands''
    have getsOn : m.position < m'.position := by omega
    rw [if_pos ⟨getsOn, below⟩]
    exact .reached reach (.rebase (goes t'' m' stands'' getsOn below) leaves'')

theorem star {greedy nullable : Bool} (h : body.Means s o)
    (advances : o.Advances s.range.stop nullable)
    (quiet : nullable = true → body.Closed s.program False) :
    (Shape.star s.program greedy nullable body).Means s (Ways.star s.range.stop greedy o) where
  closed := h.closed.star
  implements := by
    intro lo hi placed
    have closed := h.closed.star lo hi placed
    cases nullable with
    | false =>
      obtain ⟨first, last, chosen, inner, back, rfl⟩ := placed
      have le := Nat.le_of_lt (Program.lt_of_choice chosen)
      refine loop chosen closed (h.closed _ _ inner).le ?_ back
      exact iterates_plain h advances inner le (Nat.le_succ last)
    | true =>
      obtain ⟨register, first, last, chosen, inner, back, rfl⟩ := placed
      have le := Nat.le_of_lt (Program.lt_of_choice chosen)
      refine loop chosen closed (h.closed.iteration _ _ inner).le ?_ back
      exact iterates_checked h (quiet rfl) inner le (Nat.le_succ last)

theorem repeated {greedy nullable : Bool} (h : body.Means s o)
    (advances : o.Advances s.range.stop nullable) (least : Nat) (most : Option Nat)
    (quiet : most = none → nullable = true → body.Closed s.program False) :
    (Shape.repeated s.program least most greedy nullable body).Means s
      (Ways.repeated s.range least most greedy o) := by
  refine (h.mandatory least).andThen ?_
  cases most with
  | none => exact h.star advances (quiet rfl)
  | some most => exact h.upTo (most - least)

theorem repetition {nullable : Bool} (h : body.Means s o)
    (advances : o.Advances s.range.stop nullable) (amount : Amount) (preference : Preference)
    (quiet : amount.most = none → nullable = true → body.Closed s.program False) :
    (Shape.repetition s.program amount preference nullable body).Means s
      (Ways.repetition s.range amount preference o) := by
  cases preference with
  | greedy => exact h.repeated advances amount.least amount.most quiet
  | reluctant => exact h.repeated advances amount.least amount.most quiet
  | possessive => exact (h.repeated advances amount.least amount.most quiet).atomic

end Shape.Means

end PatternMachine

import PatternMachine.Proofs.Layout.Closed
import PatternMachine.Proofs.Outcome.Step

/-! Pieces of code, and the code around them. What a construct yields depends only on what its body
yields, whatever that is: an atomic group the first way, an assertion where it began, a group the same
ways with a capture, and a call what the called function yields. -/
namespace PatternMachine

variable {E : Type}

/-! ### What stays behind -/

/-- A save point that stays behind resumes at the end of a piece of code that keeps to itself. -/
def Program.Leftover (p : Program E) (a : Address) : Prop :=
  ∃ lo, lo < a.index ∧ p.operation? lo = some (.save a) ∧ p.Closed True lo a.index

/-- Does any instruction of the range call a function? -/
def Program.Calls (p : Program E) (lo hi : Nat) : Prop :=
  ∃ i a, lo ≤ i ∧ i < hi ∧ p.operation? i = some (.call a)

namespace Program

variable {p : Program E} {lo lo' hi hi' : Nat}

/-- What the code between two addresses may leave behind. A function may set any register. -/
def footprint (p : Program E) (lo hi : Nat) : Footprint where
  resumes := p.Leftover
  sets r := Shape.Sets p lo hi r ∨ p.Calls lo hi

/-- What any code may leave behind, the functions that it calls included. -/
def anything (p : Program E) : Footprint where
  resumes := p.Leftover
  sets _ := True

theorem footprint_le (le : lo ≤ lo') (le' : hi' ≤ hi) :
    (p.footprint lo' hi').Le (p.footprint lo hi) where
  resumes _ left := left
  sets r inside := by
    rcases inside with ⟨i, above, below, known⟩ | ⟨i, a, above, below, known⟩
    · exact .inl ⟨i, Nat.le_trans le above, Nat.lt_of_lt_of_le below le', known⟩
    · exact .inr ⟨i, a, Nat.le_trans le above, Nat.lt_of_lt_of_le below le', known⟩

theorem footprint_le_anything : (p.footprint lo hi).Le p.anything :=
  ⟨fun _ left => left, fun _ _ => trivial⟩

/-- Code that calls may leave behind what any code may. -/
theorem Calls.anything_le (h : p.Calls lo hi) : p.anything.Le (p.footprint lo hi) :=
  ⟨fun _ left => left, fun _ _ => .inr h⟩

/-- A register that no instruction of the piece sets, and the piece calls nothing. -/
theorem Closed.unset {register : PositionRegister} (h : p.Closed False lo hi)
    (unset : ¬Shape.Sets p lo hi register) : ¬(p.footprint lo hi).sets register := by
  rintro (sets | ⟨i, a, above, below, known⟩)
  · exact unset sets
  · exact h.calls i a above below known

/-- What is removed with `CLEAR_THROUGH` does not stay behind: whoever saves it in front of the
instruction encloses the instruction. -/
theorem not_leftover {i : Nat} {a : Address} (clears : p.operation? i = some (.clearThrough a))
    (lt : i < a.index)
    (between : ∀ j b, i < j → j < a.index → p.operation? j ≠ some (.save b)) : ¬p.Leftover a := by
  rintro ⟨lo, below, saved, closed⟩
  rcases Nat.lt_or_ge i lo with behind | before
  · exact between lo a behind below saved
  · exact absurd (closed.clears i a before lt clears) (Nat.lt_irrefl _)

/-- What a choice saves stays behind. -/
theorem choice_leftover {greedy : Bool} {exit first : Nat}
    (chosen : Shape.choice p greedy exit lo first) (closed : p.Closed True lo exit)
    (lt : lo < exit) (a : Address) (saves : p.operation? lo = some (.save a)) : p.Leftover a := by
  cases greedy with
  | true =>
    obtain ⟨save, -⟩ := chosen
    cases save.symm.trans saves
    exact ⟨lo, lt, save, closed⟩
  | false =>
    have closed : p.Closed True lo first := Shape.Closed.choice lo first chosen
    obtain ⟨save, leave, rfl⟩ := chosen
    cases save.symm.trans saves
    exact ⟨lo, Nat.lt_add_of_pos_right (Nat.succ_pos 1), save, closed⟩

theorem lt_of_choice {greedy : Bool} {exit first : Nat}
    (placed : Shape.choice p greedy exit lo first) : lo < first := by
  cases greedy with
  | true => exact placed.2 ▸ Nat.lt_succ_self lo
  | false => exact placed.2.2 ▸ Nat.lt_add_of_pos_right (Nat.succ_pos 1)

end Program

variable [DecidableEq E] {s : Search E}

/-! ### Removing save points -/

/-- Nothing that the body has saved is in the way of the save point below it. -/
theorem Snapshot.dropThrough_own {own : List Snapshot} (sn : Snapshot) {saved : List Snapshot}
    (apart : ∀ sn' ∈ own, sn'.resume ≠ sn.resume) :
    Snapshot.dropThrough sn.resume (own ++ sn :: saved) = some saved := by
  induction own with
  | nil => exact if_pos rfl
  | cons sn' own ih =>
    rw [List.cons_append, Snapshot.dropThrough, if_neg (apart sn' List.mem_cons_self)]
    exact ih fun sn' member => apart sn' (List.mem_cons_of_mem _ member)

namespace Thread.At

variable {f f' : Footprint} {t t' : Thread} {a : Address} {i mid : Nat} {m : Moment}

/-- A body that is done: what it has saved goes, together with the save point below. -/
theorem clearThrough {own : List Snapshot} (stands : t'.At s mid m)
    (leaves : Leaves f own (t.save a) t') (safe : ¬f.resumes a) (le : f.Le f')
    (known : s.program.operation? mid = some (.clearThrough a)) :
    ∃ t'', s.move t' = .next t'' ∧ t''.At s (mid + 1) m ∧ Leaves f' [] t t'' := by
  have dropped : Snapshot.dropThrough a t'.savePoints = some t.savePoints := by
    rw [leaves.saved]
    have apart : ∀ sn' ∈ own, sn'.resume ≠ a := by
      intro sn' member same
      exact safe (same ▸ (leaves.resumes sn' member).1)
    exact Snapshot.dropThrough_own (t.config.save a (some t.config.position)) apart
  have moved := stands.move known
  simp only [Search.effect, Thread.obey, dropped] at moved
  refine ⟨_, moved, ?_, ?_⟩
  · exact ⟨congrArg (· + 1) stands.pc, stands.position, stands.captures, stands.within.move moved⟩
  · have kept := leaves.mono le
    exact ⟨kept.calls, rfl, kept.positions, kept.forward, kept.opened, List.forall_mem_nil _⟩

/-- Failing above a save point. -/
theorem fail_above (stands : t'.At s i m) (saved : t'.savePoints = (t.save a).savePoints)
    (known : s.program.operation? i = some .fail) : s.Reaches (.next t') (.next (t.jump a)) := by
  have moved := stands.move known
  simp only [Search.effect, Thread.obey, saved] at moved
  exact .move moved

/-- Failing for good, without the save point. -/
theorem clear_fail (stands : t'.At s i m) (saved : t'.savePoints = (t.save a).savePoints)
    (known : s.program.operation? i = some .clear)
    (known' : s.program.operation? (i + 1) = some .fail) :
    ∃ position, s.Reaches (.next t') (.fall position t.savePoints) := by
  have moved := stands.move known
  simp only [Search.effect, Thread.obey, saved, Thread.save] at moved
  have stands' : Thread.At ⟨t'.config.advance, t.savePoints⟩ s (i + 1) m :=
    ⟨congrArg (· + 1) stands.pc, stands.position, stands.captures, stands.within.move moved⟩
  exact ⟨_, .trans (.move moved) (.move (stands'.move known'))⟩

end Thread.At

/-! ### Code around a body -/

/-- The code between `lo` and `hi` enters that between `lo'` and `hi'` as its body and turns what the
body yields into what it yields itself. -/
def Search.Wraps (s : Search E) (lo hi lo' hi' : Nat) (g : Moment → Unfolding → Unfolding) : Prop :=
  ∀ (t : Thread) m, t.At s lo m → ∃ t', t'.At s lo' m ∧ ∀ w,
    Yields s (s.program.footprint lo' hi') hi' t' w (.next t') →
      Yields s (s.program.footprint lo hi) hi t (g m w) (.next t)

namespace Search.Wraps

variable {body : Shape} {lo hi : Nat}

theorem atomic (placed : Shape.atomic s.program body lo hi) :
    ∃ mid, body (lo + 1) mid ∧ s.Wraps lo hi (lo + 1) mid fun _ w => w.first := by
  obtain ⟨mid, save, inner, clear, leave, fail, rfl⟩ := placed
  refine ⟨mid, inner, fun t m stands => ⟨t.save ⟨mid + 2⟩, stands.save _, fun w yields => ?_⟩⟩
  have enters : s.Reaches (.next t) (.next (t.save ⟨mid + 2⟩)) := .move (stands.move save)
  have smaller := s.program.footprint_le (Nat.le_succ lo) (by omega : mid ≤ mid + 3)
  have safe : ¬s.program.Leftover ⟨mid + 2⟩ := by
    refine Program.not_leftover clear (Nat.lt_add_of_pos_right (Nat.succ_pos 1)) ?_
    intro j b above below
    cases Nat.le_antisymm above (Nat.le_of_lt_succ below)
    rw [leave]
    nofun
  cases yields with
  | unknown => exact .unknown
  | ends reach =>
    have failing := (stands.jump ⟨mid + 2⟩).move fail
    exact .ends (enters.trans (reach.trans (.move failing)))
  | comes reach done leaves =>
    obtain ⟨t', moved, stands', leaves⟩ := done.clearThrough leaves safe smaller clear
    have left : s.move t' = .next (t'.jump ⟨mid + 3⟩) := stands'.move leave
    have there := enters.trans (reach.trans (.trans (.move moved) (.move left)))
    exact .once there (stands'.jump ⟨mid + 3⟩) (leaves.trans (t'.leaves_jump _))

theorem lookahead {kind : Lookahead} (placed : Shape.lookahead s.program kind body lo hi) :
    ∃ mid, body (lo + 2) mid ∧ s.Wraps lo hi (lo + 2) mid fun m w => w.assertion kind m := by
  obtain ⟨mid, save, save', inner, clear, settled, rfl⟩ := placed
  refine ⟨mid, inner, fun t m stands => ?_⟩
  let t₁ := t.save ⟨mid + 4⟩
  let t₂ := t₁.save ⟨Shape.interception kind mid⟩
  have stands₁ : t₁.At s (lo + 1) m := stands.save _
  refine ⟨t₂, stands₁.save _, fun w yields => ?_⟩
  have enters : s.Reaches (.next t) (.next t₂) :=
    .trans (.move (stands.move save)) (.move (stands₁.move save'))
  have caught := stands₁.jump ⟨Shape.interception kind mid⟩
  have smaller := s.program.footprint_le (by omega : lo ≤ lo + 2) (by omega : mid ≤ mid + 4)
  have safe : ¬s.program.Leftover ⟨Shape.interception kind mid⟩ := by
    refine Program.not_leftover clear (by cases kind <;> simp only [Shape.interception] <;> omega) ?_
    intro j b above below
    cases kind with
    | positive =>
      cases Nat.le_antisymm above (Nat.le_of_lt_succ below)
      simp [settled.1]
    | negative =>
      simp only [Shape.interception] at below
      obtain rfl | rfl : j = mid + 1 ∨ j = mid + 2 := by omega
      · simp [settled.1]
      · simp [settled.2.1]
  have holds {x : Move} (reach : s.Reaches x (.next (t.jump ⟨mid + 4⟩))) :
      Yields s (s.program.footprint lo (mid + 4)) (mid + 4) t (.ofList [m]) x :=
    .once reach (stands.jump _) (t.leaves_jump _)
  cases yields with
  | unknown => exact .unknown
  | ends reach =>
    have reach : s.Reaches (.next t) (.next (t₁.jump ⟨Shape.interception kind mid⟩)) :=
      enters.trans reach
    cases kind with
    | positive =>
      obtain ⟨position, fails⟩ := caught.clear_fail rfl settled.2.1 settled.2.2
      exact .ends (reach.trans fails)
    | negative => exact holds (reach.trans (caught.fail_above rfl settled.2.2))
  | comes reach done leaves =>
    obtain ⟨t', moved, stands', cleared⟩ := done.clearThrough leaves safe smaller clear
    have there : s.Reaches (.next t) (.next t') := enters.trans (reach.trans (.move moved))
    cases kind with
    | positive => exact holds (there.trans (stands'.fail_above cleared.saved settled.1))
    | negative =>
      obtain ⟨position, fails⟩ := stands'.clear_fail cleared.saved settled.1 settled.2.1
      exact .ends (there.trans fails)

theorem capture {register : CaptureRegister} (placed : Shape.capture s.program register body lo hi) :
    ∃ mid, body (lo + 1) mid ∧ s.Wraps lo hi (lo + 1) mid fun m w =>
      w.map fun m' => m'.store register.index ⟨m.position, m'.position⟩ := by
  obtain ⟨mid, opens, inner, closes, rfl, bound⟩ := placed
  refine ⟨mid, inner, fun t m stands => ?_⟩
  obtain ⟨moved, stands₁⟩ := stands.beginCapture opens bound
  refine ⟨t.enter register, stands₁, fun w yields => ?_⟩
  have smaller := s.program.footprint_le (Nat.le_succ lo) (Nat.le_succ mid)
  refine .reached (.move moved) ((yields.mono smaller).map rfl ?_)
  intro t' own m' stands' leaves
  exact stands.endCapture stands' leaves closes bound

end Search.Wraps

namespace Yields

variable {f : Footprint} {lo mid hi : Nat} {t : Thread} {m : Moment} {w : Unfolding} {x : Move}

/-- A piece behind which control goes elsewhere. -/
theorem leave (h : Yields s f mid t w x)
    (known : s.program.operation? mid = some (.branch ⟨hi⟩)) : Yields s f hi t w x := by
  have whole : Yields s f hi t (w.map id) x := h.map rfl fun t' own m stands leaves =>
    ⟨t'.jump ⟨hi⟩, stands.move known, stands.jump ⟨hi⟩, leaves.trans (t'.leaves_jump _)⟩
  rwa [Unfolding.map_id] at whole

/-- A choice whose exit is the end. -/
theorem prefer {greedy : Bool} {first : Nat} (chosen : Shape.choice s.program greedy hi lo first)
    (closed : s.program.Closed True lo hi) (lt : lo < hi) (stands : t.At s lo m) :
    ∃ t', t'.At s first m ∧ ∀ w, Yields s (s.program.footprint lo hi) hi t' w (.next t') →
      Yields s (s.program.footprint lo hi) hi t (Ways.prefer greedy w m) (.next t) := by
  have done (t : Thread) (stands : t.At s hi m) :
      Yields s (s.program.footprint lo hi) hi t (.ofList [m]) (.next t) :=
    .once (.refl _) stands (.refl t)
  have resumes := Program.choice_leftover chosen closed lt
  cases greedy with
  | true =>
    obtain ⟨save, rfl⟩ := chosen
    refine ⟨_, stands.save ⟨hi⟩, fun w more => ?_⟩
    exact .choose stands save (resumes _ save) more (done _ (stands.jump ⟨hi⟩))
  | false =>
    obtain ⟨save, leave, rfl⟩ := chosen
    have stops := Yields.branch (stands.save ⟨lo + 2⟩) leave
      (done _ ((stands.save ⟨lo + 2⟩).jump ⟨hi⟩))
    refine ⟨_, stands.jump ⟨lo + 2⟩, fun w more => ?_⟩
    exact .choose stands save (resumes _ save) stops more

/-- A branch is tried before the rest of the branches. -/
theorem branches {body : Shape} (keeps : body.Closed s.program True) {next : Nat}
    (placed : Shape.branch s.program hi body lo next) (le : next ≤ hi) :
    ∃ mid, body (lo + 1) mid ∧ ∀ (t : Thread) m, t.At s lo m →
      ∃ t' t'', t'.At s (lo + 1) m ∧ t''.At s next m ∧ ∀ w w',
        Yields s (s.program.footprint (lo + 1) mid) mid t' w (.next t') →
        Yields s (s.program.footprint next hi) hi t'' w' (.next t'') →
          Yields s (s.program.footprint lo hi) hi t (w.append w') (.next t) := by
  have closed := keeps.branch _ _ placed
  obtain ⟨mid, save, inner, leaves, rfl⟩ := placed
  have between := (keeps _ _ inner).le
  refine ⟨mid, inner, fun t m stands => ?_⟩
  refine ⟨_, _, stands.save ⟨mid + 1⟩, stands.jump ⟨mid + 1⟩, fun w w' first second => ?_⟩
  have resumes : s.program.Leftover ⟨mid + 1⟩ := ⟨lo, by simp only; omega, save, closed⟩
  have first := first.mono (s.program.footprint_le (Nat.le_succ lo) (by omega : mid ≤ hi))
  have second := second.mono (s.program.footprint_le (by omega : lo ≤ mid + 1) (Nat.le_refl hi))
  exact .choose stands save resumes (first.leave leaves) second

/-- A function that is called comes back, and its caller goes on behind the call. -/
theorem call {a : Address} (stands : t.At s lo m)
    (known : s.program.operation? lo = some (.call a))
    (returns : s.program.operation? hi = some .ret) :
    ∃ t', t'.At s a.index m ∧ ∀ w, Yields s s.program.anything hi t' w (.next t') →
      Yields s (s.program.footprint lo (lo + 1)) (lo + 1) t w (.next t) := by
  let t' : Thread := { t with config := { t.config with
    pc := a, callStack := t.config.callStack.push t.config.pc.next } }
  have moved : s.move t = .next t' := stands.move known
  have stands' : t'.At s a.index m :=
    ⟨rfl, stands.position, stands.captures, stands.within.move moved⟩
  refine ⟨t', stands', fun w yields => ?_⟩
  have calls : s.program.Calls lo (lo + 1) := ⟨lo, a, Nat.le_refl lo, Nat.lt_succ_self lo, known⟩
  have whole : Yields s (s.program.footprint lo (lo + 1)) (lo + 1) t (w.map id) (.next t) := by
    refine .reached (.move moved) ((yields.mono calls.anything_le).map rfl ?_)
    intro t'' own m' stands'' leaves
    have moved' := stands''.move returns
    simp only [Search.effect, leaves.calls, t', Stack.pop?_push] at moved'
    refine ⟨_, moved', ⟨congrArg (· + 1) stands.pc, stands''.position, stands''.captures,
      stands''.within.move moved'⟩, ?_⟩
    exact { leaves with calls := rfl }
  rwa [Unfolding.map_id] at whole

/-- A function is its body behind a mark. -/
theorem function {entry : String → Option Address} {name : String} {body : Pattern E} {at_ : Nat}
    (function : s.program.Function entry name body at_) :
    ∃ hi, s.program.operation? hi = some .ret ∧ body.Placed s.program entry (at_ + 1) hi ∧
      ∀ (t : Thread) m, t.At s at_ m → ∃ t', t'.At s (at_ + 1) m ∧ ∀ w,
        Yields s (s.program.footprint (at_ + 1) hi) hi t' w (.next t') →
          Yields s s.program.anything hi t w (.next t) := by
  obtain ⟨comment, hi, mark, text, placed, returns⟩ := function
  refine ⟨hi, returns, placed, fun t m stands => ?_⟩
  have moved : s.move t = .next (t.jump t.config.pc.next) := by
    rw [stands.move mark]
    simp only [Search.effect, Search.string?, text]
    split <;> rfl
  have stands' : (t.jump t.config.pc.next).At s (at_ + 1) m :=
    stands.pc ▸ stands.jump t.config.pc.next
  refine ⟨_, stands', fun w yields => .reached (.move moved) ?_⟩
  exact (yields.rebase (t.leaves_jump _)).mono Program.footprint_le_anything

end Yields

end PatternMachine

import PatternMachine.Proofs.Outcome.Construct

/-! Code that comes to an end. Whatever the position registers hold, a thread that enters the code of a
construct comes to its end only finitely often, if calls come back at the positions where the code can
call. Nothing is said about which outcomes these are: a function that enters a loop once more sets the
register of the loop, so an iteration may be taken for one that did not move, but never the other way
round. -/
namespace PatternMachine

variable {E : Type} [DecidableEq E] {s : Search E}

/-! ### Threads -/

/-- From `x`, a thread that entered as `t₀` comes to the end `hi` finitely often and then falls back.
Unless `nullable`, it has consumed something each time. -/
def Exhausts (s : Search E) (f : Footprint) (hi : Nat) (t₀ : Thread) (nullable : Bool) (x : Move) :
    Prop :=
  ∃ ms : List Moment, (nullable = false → ∀ m ∈ ms, t₀.config.position < m.position) ∧
    Yields s f hi t₀ (.ofList ms) x

namespace Exhausts

variable {f f' : Footprint} {mid hi : Nat} {t₀ t : Thread} {own : List Snapshot} {m : Moment}
  {nullable nullable' : Bool} {x y : Move}

theorem mono (le : f.Le f') (h : Exhausts s f hi t₀ nullable x) : Exhausts s f' hi t₀ nullable x := by
  obtain ⟨ms, goes, yields⟩ := h
  exact ⟨ms, goes, yields.mono le⟩

theorem weaken (h : Exhausts s f hi t₀ nullable x) : Exhausts s f hi t₀ true x := by
  obtain ⟨ms, -, yields⟩ := h
  exact ⟨ms, nofun, yields⟩

theorem reached (reach : s.Reaches y x) (h : Exhausts s f hi t₀ nullable x) :
    Exhausts s f hi t₀ nullable y := by
  obtain ⟨ms, goes, yields⟩ := h
  exact ⟨ms, goes, yields.reached reach⟩

theorem once (reach : s.Reaches x (.next t)) (stands : t.At s hi m)
    (leaves : Thread.Leaves f [] t₀ t) : Exhausts s f hi t₀ true x :=
  ⟨[m], nofun, .once reach stands leaves⟩

/-- A thread that enters with the same save points, not behind. -/
theorem rebase (h : Exhausts s f hi t nullable x) (leaves : Thread.Leaves f [] t₀ t) :
    Exhausts s f hi t₀ nullable x := by
  obtain ⟨ms, goes, yields⟩ := h
  refine ⟨ms, fun one m member => ?_, yields.rebase leaves⟩
  exact Nat.lt_of_le_of_lt leaves.forward (goes one m member)

/-- One piece after the other. -/
theorem bind (le : f.Le f') (h : Exhausts s f mid t₀ nullable x)
    (on : ∀ t own m, t.At s mid m → Thread.Leaves f own t₀ t →
      (nullable = false → t₀.config.position < m.position) →
      Exhausts s f' hi t nullable' (.next t)) :
    Exhausts s f' hi t₀ (nullable && nullable') x := by
  obtain ⟨ms, goes, yields⟩ := h
  induction ms generalizing x with
  | nil =>
    cases yields with
    | ends reach => exact ⟨[], nofun, .ends reach⟩
  | cons m rest ih =>
    cases yields with
    | @comes _ t own _ _ reach stands leaves later =>
      have goesOn : nullable = false → ∀ m ∈ rest, t₀.config.position < m.position :=
        fun one m member => goes one m (List.mem_cons_of_mem _ member)
      -- Without a save point of its own the thread is done; with one, it does not matter where it fails.
      obtain ⟨ms', goes', falls⟩ : ∃ ms' : List Moment,
          ((nullable && nullable') = false → ∀ m ∈ ms', t₀.config.position < m.position) ∧
          ∀ position, Yields s f' hi t₀ (.ofList ms') (.fall position t.savePoints) := by
        cases own with
        | nil => exact ⟨[], nofun, fun position => .ends (Yields.falls leaves position)⟩
        | cons sn own =>
          obtain ⟨ms', goes', yields'⟩ := ih goesOn (later 0)
          exact ⟨ms', goes', fun position => leaves.fall_eq position 0 ▸ yields'⟩
      obtain ⟨ms, inner, yields⟩ := on t own m stands leaves fun one => goes one m List.mem_cons_self
      refine ⟨ms ++ ms', fun one m' member => ?_, ?_⟩
      · rcases List.mem_append.mp member with member | member
        · have known : m' ∈ (Unfolding.ofList ms).known := by rwa [Unfolding.known_ofList]
          rcases Bool.and_eq_false_iff.mp one with one | one
          · have before := goes one m List.mem_cons_self
            exact Nat.lt_of_lt_of_le (stands.position ▸ before) (yields.forward known)
          · exact Nat.lt_of_le_of_lt leaves.forward (inner one m' member)
        · exact goes' one m' member
      · rw [← Unfolding.ofList_append]
        exact (yields.reached reach).append (leaves.mono le) falls

/-- The same, where it does not matter whether anything has been consumed. -/
theorem followed (le : f.Le f') (h : Exhausts s f mid t₀ nullable x)
    (on : ∀ t own m, t.At s mid m → Thread.Leaves f own t₀ t →
      (nullable = false → t₀.config.position < m.position) →
      Exhausts s f' hi t true (.next t)) : Exhausts s f' hi t₀ true x :=
  (h.bind le on).weaken

end Exhausts

/-! ### Calls -/

/-- A function that is called at the position comes back finitely often. -/
def Search.Returns (s : Search E) (entry : String → Option Address) (name : String)
    (position : Nat) : Prop :=
  ∀ a, entry name = some a → ∃ hi, s.program.operation? hi = some .ret ∧
    ∀ (t : Thread) m, t.At s a.index m → m.position = position →
      Exhausts s s.program.anything hi t true (.next t)

/-- The given functions come back from here, and all functions from further on. -/
structure Search.Ready (s : Search E) (entry : String → Option Address) (names : List String)
    (position : Nat) : Prop where
  now : ∀ name ∈ names, s.Returns entry name position
  later : ∀ name later, position < later → later ≤ s.range.stop → s.Returns entry name later

/-- Further on, everything is ready. -/
theorem Search.Ready.advance {entry : String → Option Address} {names names' : List String}
    {position later : Nat} (h : s.Ready entry names position) (le : position ≤ later)
    (stop : later ≤ s.range.stop) (sub : later = position → names' ⊆ names) :
    s.Ready entry names' later where
  now name member := by
    rcases Nat.eq_or_lt_of_le le with rfl | lt
    · exact h.now name (sub rfl member)
    · exact h.later name later lt stop
  later name further lt inside := h.later name further (Nat.lt_of_le_of_lt le lt) inside

/-! ### Shapes -/

/-- Code of the shape comes to its end finitely often, if the functions that it may call at once come
back from where it is entered, and all functions from further on. -/
structure Shape.Halts (s : Search E) (entry : String → Option Address) (shape : Shape)
    (names : List String) (nullable : Bool) : Prop where
  closed : shape.Closed s.program True
  exhausts : ∀ lo hi, shape lo hi → ∀ (t : Thread) m, t.At s lo m →
    s.Ready entry names m.position →
      Exhausts s (s.program.footprint lo hi) hi t nullable (.next t)

namespace Shape.Halts

variable {entry : String → Option Address} {shape shape' body : Shape}
  {names names' all : List String} {nullable nullable' : Bool} {lo hi : Nat}

/-- Where all outcomes are known, they are finitely many. -/
theorem of_means {o : Outcomes} (h : shape.Means s (.all o))
    (advances : (Ways.all o).Advances s.range.stop nullable) :
    shape.Halts s entry names nullable where
  closed := h.closed
  exhausts lo hi placed t m stands _ := by
    have inside := stands.position ▸ stands.within.config.inside
    refine ⟨o m, fun one m' member => ?_, h.implements lo hi placed t m stands⟩
    have known : m' ∈ (Ways.all o m).known := by rwa [Ways.all, Unfolding.known_ofList]
    rw [stands.position]
    exact (advances m m' inside.2 known).2.2 one

theorem andThen (h : shape.Halts s entry names nullable)
    (h' : shape'.Halts s entry names' nullable') (sub : names ⊆ all)
    (sub' : nullable = true → names' ⊆ all) :
    (Shape.andThen shape shape').Halts s entry all (nullable && nullable') where
  closed := h.closed.andThen h'.closed
  exhausts := by
    rintro lo hi ⟨mid, first, second⟩ t m stands ready
    have le := (h.closed lo mid first).le
    have le' := (h'.closed mid hi second).le
    have inside := stands.position ▸ stands.within.config.inside.2
    have one := h.exhausts lo mid first t m stands
      (ready.advance (Nat.le_refl _) inside fun _ => sub)
    refine one.bind (s.program.footprint_le (Nat.le_refl lo) le') fun t' own m' stands' leaves goes => ?_
    have forward := leaves.forward
    rw [stands.position, stands'.position] at forward
    have inside' := stands'.position ▸ stands'.within.config.inside.2
    have ready' : s.Ready entry names' m'.position := by
      refine ready.advance forward inside' fun same => sub' ?_
      cases nullable with
      | true => rfl
      | false => exact absurd (goes rfl) (by rw [stands.position]; omega)
    exact (h'.exhausts mid hi second t' m' stands' ready').mono
      (Program.footprint_le le (Nat.le_refl hi))

theorem wrapped {g : Moment → Unfolding → Unfolding} (h : body.Halts s entry names nullable)
    (closed : shape.Closed s.program True)
    (wraps : ∀ lo hi, shape lo hi → ∃ lo' mid, body lo' mid ∧ s.Wraps lo hi lo' mid g)
    (finite : ∀ m ms, ∃ ms', g m (.ofList ms) = .ofList ms' ∧ (nullable' = false →
      (nullable = false → ∀ m' ∈ ms, m.position < m'.position) →
        ∀ m' ∈ ms', m.position < m'.position)) :
    shape.Halts s entry names nullable' where
  closed := closed
  exhausts lo hi placed t m stands ready := by
    obtain ⟨lo', mid, inner, wraps⟩ := wraps lo hi placed
    obtain ⟨t', stands', turns⟩ := wraps t m stands
    obtain ⟨ms, goes, yields⟩ := h.exhausts lo' mid inner t' m stands' ready
    obtain ⟨ms', eq, goes'⟩ := finite m ms
    rw [stands'.position] at goes
    refine ⟨ms', fun one => ?_, eq ▸ turns _ yields⟩
    rw [stands.position]
    exact goes' one goes

theorem atomic (h : body.Halts s entry names nullable) :
    (Shape.atomic s.program body).Halts s entry names nullable := by
  refine h.wrapped h.closed.atomic (fun _ _ placed => ⟨_, Search.Wraps.atomic placed⟩) ?_
  intro m ms
  refine ⟨_, Unfolding.ofList_first ms, fun one goes m' member => ?_⟩
  exact goes one m' (List.mem_of_mem_take member)

theorem lookahead {kind : Lookahead} (h : body.Halts s entry names nullable) :
    (Shape.lookahead s.program kind body).Halts s entry names true := by
  refine h.wrapped h.closed.lookahead (fun _ _ placed => ⟨_, Search.Wraps.lookahead placed⟩) ?_
  exact fun m ms => ⟨_, Unfolding.ofList_assertion kind m ms, nofun⟩

theorem capture {register : CaptureRegister} (h : body.Halts s entry names nullable) :
    (Shape.capture s.program register body).Halts s entry names nullable := by
  refine h.wrapped h.closed.capture (fun _ _ placed => ⟨_, Search.Wraps.capture placed⟩) ?_
  intro m ms
  refine ⟨_, Unfolding.ofList_map _ ms, fun one goes m' member => ?_⟩
  obtain ⟨inner, found, rfl⟩ := List.mem_map.mp member
  exact goes one inner found

/-! ### Choices -/

theorem branch (h : body.Halts s entry names nullable) {next : Nat}
    (placed : Shape.branch s.program hi body lo next) (le : next ≤ hi) {t : Thread} {m : Moment}
    (stands : t.At s lo m) (ready : s.Ready entry names m.position)
    (rest : ∀ t', t'.At s next m →
      Exhausts s (s.program.footprint next hi) hi t' nullable' (.next t')) :
    Exhausts s (s.program.footprint lo hi) hi t (nullable || nullable') (.next t) := by
  obtain ⟨mid, inner, tries⟩ := Yields.branches h.closed placed le
  obtain ⟨t', t'', stands', stands'', turns⟩ := tries t m stands
  obtain ⟨ms, goes, yields⟩ := h.exhausts _ _ inner t' m stands' ready
  obtain ⟨ms', goes', yields'⟩ := rest t'' stands''
  refine ⟨ms ++ ms', fun neither m' member => ?_, ?_⟩
  · obtain ⟨one, one'⟩ := Bool.or_eq_false_iff.mp neither
    rw [stands.position]
    rcases List.mem_append.mp member with member | member
    · exact stands'.position ▸ goes one m' member
    · exact stands''.position ▸ goes' one' m' member
  · rw [← Unfolding.ofList_append]
    exact turns _ _ yields yields'

/-- A choice between going on and the end. -/
theorem choice {greedy : Bool} {first : Nat} (chosen : Shape.choice s.program greedy hi lo first)
    (closed : s.program.Closed True lo hi) (lt : lo < hi) {t : Thread} {m : Moment}
    (stands : t.At s lo m)
    (more : ∀ t', t'.At s first m →
      Exhausts s (s.program.footprint lo hi) hi t' true (.next t')) :
    Exhausts s (s.program.footprint lo hi) hi t true (.next t) := by
  obtain ⟨t', stands', turns⟩ := Yields.prefer chosen closed lt stands
  obtain ⟨ms, -, yields⟩ := more t' stands'
  exact ⟨Outcomes.prefer greedy ms m, nofun, Ways.all_prefer greedy ms m ▸ turns _ yields⟩

theorem mandatory (h : body.Halts s entry names nullable) (n : Nat) :
    (Shape.mandatory body n).Halts s entry names (n == 0 || nullable) := by
  induction n with
  | zero => exact of_means .nothing .stay
  | succ n ih =>
    have both := h.andThen ih (List.Subset.refl names) fun _ => List.Subset.refl names
    refine ⟨both.closed, fun lo hi placed t m stands ready => ?_⟩
    obtain ⟨ms, goes, yields⟩ := both.exhausts lo hi placed t m stands ready
    refine ⟨ms, fun one => goes ?_, yields⟩
    have one : nullable = false := one
    rw [one, Bool.false_and]

theorem optional {greedy : Bool} (h : body.Halts s entry names nullable) (n : Nat)
    (placed : Shape.optional s.program greedy hi body n lo hi) {t : Thread} {m : Moment}
    (stands : t.At s lo m) (ready : s.Ready entry names m.position) :
    Exhausts s (s.program.footprint lo hi) hi t true (.next t) := by
  induction n generalizing lo t m with
  | zero =>
    have nothing : Shape.nothing.Halts s entry names true := of_means .nothing .stay
    exact nothing.exhausts lo hi placed t m stands ready
  | succ n ih =>
    have closed := h.closed.optional (n + 1) lo hi placed
    obtain ⟨first, chosen, second, inner, rest⟩ := placed
    have lt := Program.lt_of_choice chosen
    have le := (h.closed _ _ inner).le
    have le' := (h.closed.optional n second hi rest).le
    refine choice chosen closed (by omega) stands fun t' stands' => ?_
    have smaller := s.program.footprint_le (Nat.le_of_lt lt) le'
    refine (h.exhausts _ _ inner t' m stands' ready).followed smaller ?_
    intro t'' own m' stands'' leaves _
    have forward := leaves.forward
    rw [stands'.position, stands''.position] at forward
    have inside := stands''.position ▸ stands''.within.config.inside.2
    have ready' := ready.advance forward inside fun _ => List.Subset.refl names
    exact (ih rest stands'' ready').mono (Program.footprint_le (by omega) (Nat.le_refl hi))

theorem upTo {greedy : Bool} (h : body.Halts s entry names nullable) (n : Nat) :
    (Shape.upTo s.program n greedy body).Halts s entry names true where
  closed := h.closed.upTo n
  exhausts _ _ placed _ _ stands ready := h.optional n placed stands ready

/-! ### Loops -/

/-- One iteration: those that come to `last` have moved. -/
def Iterates (s : Search E) (entry : String → Option Address) (names : List String) (f : Footprint)
    (first last hi : Nat) : Prop :=
  ∀ (t : Thread) m, t.At s first m → s.Ready entry names m.position →
    (∀ (t' : Thread) m', t'.At s last m' → m.position < m'.position → m'.position ≤ s.range.stop →
      Exhausts s f hi t' true (.next t')) →
    Exhausts s f hi t true (.next t)

/-- The loop, from what one iteration does. The induction is on what is left of the range. -/
theorem loop {greedy : Bool} {first last : Nat}
    (chosen : Shape.choice s.program greedy (last + 1) lo first)
    (closed : s.program.Closed True lo (last + 1)) (le : first ≤ last)
    (iterates : Iterates s entry names (s.program.footprint lo (last + 1)) first last (last + 1))
    (back : s.program.operation? last = some (.branch ⟨lo⟩)) {t : Thread} {m : Moment}
    (stands : t.At s lo m) (ready : s.Ready entry names m.position) :
    Exhausts s (s.program.footprint lo (last + 1)) (last + 1) t true (.next t) := by
  have lt := Program.lt_of_choice chosen
  generalize left : s.range.stop - m.position = n
  induction n using Nat.strongRecOn generalizing t m with
  | _ n ih =>
    refine choice chosen closed (by omega) stands fun t' stands' => ?_
    refine iterates t' m stands' ready fun t'' m' stands'' goes inside => ?_
    have less : s.range.stop - m'.position < n := by omega
    have ready' := ready.advance (Nat.le_of_lt goes) inside fun _ => List.Subset.refl names
    obtain ⟨ms, -, yields⟩ := ih _ less (stands''.jump ⟨lo⟩) ready' rfl
    exact ⟨ms, nofun, .branch stands'' back yields⟩

/-- Iterations of a body that always gets on. -/
theorem iterates_plain (h : body.Halts s entry names false) {first last : Nat}
    (placed : body first last) (le : lo ≤ first) (le' : last ≤ hi) :
    Iterates s entry names (s.program.footprint lo hi) first last hi := by
  intro t m stands ready goes
  have one := h.exhausts _ _ placed t m stands ready
  refine one.followed (Program.footprint_le le le') fun t' own m' stands' _ moved => ?_
  have inside := stands'.position ▸ stands'.within.config.inside.2
  exact goes t' m' stands' (stands.position ▸ moved rfl) inside

/-- Iterations that are checked. The register holds where the iteration began, or where some activation
inside of it began one, which is not before. So an iteration that goes on has moved. -/
theorem iterates_checked (h : body.Halts s entry names nullable) {first last : Nat}
    {register : PositionRegister}
    (placed : Shape.iteration s.program register hi body first last) (le : lo ≤ first)
    (le' : last ≤ hi) : Iterates s entry names (s.program.footprint lo hi) first last hi := by
  obtain ⟨mid, stuck, begins, inner, compare, leave, rfl, bound, bound', -⟩ := placed
  intro t m stands ready goes
  have between := (h.closed _ _ inner).le
  have sets : (s.program.footprint lo hi).sets register := .inl ⟨first, le, by omega, begins⟩
  obtain ⟨t₁, moved, stands₁, leaves₁, noted⟩ := stands.movePosition begins bound sets
  refine .reached (.move moved) (.rebase ?_ leaves₁)
  have smaller := s.program.footprint_le (by omega : lo ≤ first + 1) (by omega : mid ≤ hi)
  have one := h.exhausts _ _ inner t₁ m stands₁ ready
  refine one.followed smaller fun t' own m' stands' leaves' _ => ?_
  have inside := stands'.position ▸ stands'.within.config.inside.2
  obtain ⟨start, started, above, below⟩ : ∃ start,
      t'.config.registers.positions[register.index]? = some start ∧ m.position ≤ start ∧
        start ≤ m'.position := by
    have forward := leaves'.forward
    rw [stands₁.position, stands'.position] at forward
    rcases leaves'.positions register with same | ⟨-, start, started, above, below⟩
    · exact ⟨m.position, same.trans noted, Nat.le_refl _, forward⟩
    · exact ⟨start, started, stands₁.position ▸ above, stands'.position ▸ below⟩
  obtain ⟨t'', reach, leaves'', stands''⟩ :=
    stands'.checkPosition compare leave bound' started
  by_cases same : start = m'.position
  · rw [if_pos same] at stands''
    exact .once reach stands'' leaves''
  · rw [if_neg same] at stands''
    exact .reached reach (.rebase (goes t'' m' stands'' (by omega) inside) leaves'')

theorem star {greedy : Bool} (h : body.Halts s entry names nullable) :
    (Shape.star s.program greedy nullable body).Halts s entry names true where
  closed := h.closed.star
  exhausts := by
    intro lo hi placed t m stands ready
    have closed := h.closed.star lo hi placed
    cases nullable with
    | false =>
      obtain ⟨first, last, chosen, inner, back, rfl⟩ := placed
      have le := Nat.le_of_lt (Program.lt_of_choice chosen)
      refine loop chosen closed (h.closed _ _ inner).le ?_ back stands ready
      exact iterates_plain h inner le (Nat.le_succ last)
    | true =>
      obtain ⟨register, first, last, chosen, inner, back, rfl⟩ := placed
      have le := Nat.le_of_lt (Program.lt_of_choice chosen)
      refine loop chosen closed (h.closed.iteration _ _ inner).le ?_ back stands ready
      exact iterates_checked h inner le (Nat.le_succ last)

theorem repeated {greedy : Bool} (h : body.Halts s entry names nullable) (least : Nat)
    (most : Option Nat) :
    (Shape.repeated s.program least most greedy nullable body).Halts s entry names
      (least == 0 || nullable) := by
  have first := h.mandatory least
  cases most with
  | none =>
    have rest : (Shape.star s.program greedy nullable body).Halts s entry names true := h.star
    have both := first.andThen rest (List.Subset.refl names) fun _ => .refl names
    rw [Bool.and_true] at both
    exact both
  | some most =>
    have rest : (Shape.upTo s.program (most - least) greedy body).Halts s entry names true :=
      h.upTo _
    have both := first.andThen rest (List.Subset.refl names) fun _ => .refl names
    rw [Bool.and_true] at both
    exact both

theorem repetition (h : body.Halts s entry names nullable) (amount : Amount)
    (preference : Preference) :
    (Shape.repetition s.program amount preference nullable body).Halts s entry names
      (amount.least == 0 || nullable) := by
  cases preference with
  | greedy => exact h.repeated amount.least amount.most
  | reluctant => exact h.repeated amount.least amount.most
  | possessive => exact (h.repeated amount.least amount.most).atomic

end Shape.Halts

end PatternMachine

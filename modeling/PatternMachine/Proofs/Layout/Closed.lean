import PatternMachine.Proofs.Layout.Program

/-! The code of a pattern keeps to itself: the save points that it looks for with `CLEAR_THROUGH` resume
inside of it, and it calls nothing unless the pattern refers to something that has code. -/
namespace PatternMachine

variable {E : Type}

/-- Every target that is cleared between the two addresses lies there, too; and there are calls only if
`calls` says so. -/
structure Program.Closed (p : Program E) (calls : Prop) (lo hi : Nat) : Prop where
  le : lo ≤ hi
  clears : ∀ i a, lo ≤ i → i < hi → p.operation? i = some (.clearThrough a) → a.index < hi
  calls : ∀ i a, lo ≤ i → i < hi → p.operation? i = some (.call a) → calls

namespace Program.Closed

variable {p : Program E} {calls calls' : Prop} {lo mid hi : Nat}

theorem refl (lo : Nat) : p.Closed calls lo lo where
  le := Nat.le_refl lo
  clears _ _ above below := absurd below (Nat.not_lt.mpr above)
  calls _ _ above below := absurd below (Nat.not_lt.mpr above)

theorem append (h : p.Closed calls lo mid) (h' : p.Closed calls mid hi) : p.Closed calls lo hi where
  le := Nat.le_trans h.le h'.le
  clears i a above below known := by
    rcases Nat.lt_or_ge i mid with first | second
    · exact Nat.lt_of_lt_of_le (h.clears i a above first known) h'.le
    · exact h'.clears i a second below known
  calls i a above below known := by
    rcases Nat.lt_or_ge i mid with first | second
    · exact h.calls i a above first known
    · exact h'.calls i a second below known

theorem mono (h : p.Closed calls lo hi) (le : calls → calls') : p.Closed calls' lo hi :=
  { h with calls := fun i a above below known => le (h.calls i a above below known) }

theorem instruction {op : Operation} (known : p.operation? lo = some op)
    (clears : ∀ a, op ≠ .clearThrough a) (calls' : ∀ a, op = .call a → calls) :
    p.Closed calls lo (lo + 1) where
  le := Nat.le_succ lo
  clears i a above below known' := by
    cases Nat.le_antisymm above (Nat.le_of_lt_succ below)
    exact absurd (Option.some.inj (known.symm.trans known')) (clears a)
  calls i a above below known' := by
    cases Nat.le_antisymm above (Nat.le_of_lt_succ below)
    exact calls' a (Option.some.inj (known.symm.trans known'))

/-- An instruction that neither clears nor calls. -/
theorem plain {op : Operation} (known : p.operation? lo = some op)
    (clears : ∀ a, op ≠ .clearThrough a) (calls' : ∀ a, op ≠ .call a) : p.Closed calls lo (lo + 1) :=
  .instruction known clears fun a eq => absurd eq (calls' a)

/-- The target of a clearing lies in the code behind it. -/
theorem clear {a : Address} (known : p.operation? lo = some (.clearThrough a)) (inside : a.index < hi)
    (behind : p.Closed calls (lo + 1) hi) : p.Closed calls lo hi where
  le := Nat.le_of_succ_le behind.le
  clears i b above below known' := by
    rcases Nat.eq_or_lt_of_le above with rfl | above
    · cases known.symm.trans known'
      exact inside
    · exact behind.clears i b above below known'
  calls i b above below known' := by
    rcases Nat.eq_or_lt_of_le above with rfl | above
    · cases known.symm.trans known'
    · exact behind.calls i b above below known'

end Program.Closed

/-- All code of the shape is closed. -/
def Shape.Closed (p : Program E) (calls : Prop) (shape : Shape) : Prop :=
  ∀ lo hi, shape lo hi → p.Closed calls lo hi

namespace Shape.Closed

variable {p : Program E} {calls calls' : Prop} {shape shape' body : Shape} {lo hi : Nat}

theorem mono (h : shape.Closed p calls) (le : calls → calls') : shape.Closed p calls' :=
  fun lo hi placed => (h lo hi placed).mono le

theorem nothing : Shape.nothing.Closed p calls := by
  rintro lo _ rfl
  exact .refl _

theorem andThen (h : shape.Closed p calls) (h' : shape'.Closed p calls) :
    (Shape.andThen shape shape').Closed p calls := by
  rintro lo hi ⟨mid, first, second⟩
  exact (h lo mid first).append (h' mid hi second)

theorem single {means : Operation → Prop} (clears : ∀ a, ¬means (.clearThrough a))
    (calls' : ∀ a, means (.call a) → calls) : (Shape.single p means).Closed p calls := by
  rintro lo _ ⟨rfl, op, known, meaning⟩
  refine .instruction known ?_ ?_
  · rintro a rfl
    exact clears a meaning
  · rintro a rfl
    exact calls' a meaning

theorem element (e : E) : (Shape.element p e).Closed p calls := .single (by simp) (by simp)

theorem literal (elements : List E) : (Shape.literal p elements).Closed p calls := by
  induction elements with
  | nil => exact nothing
  | cons e rest ih => exact (element e).andThen ih

theorem predicate (f : E → Bool) : (Shape.predicate p f).Closed p calls := .single (by simp) (by simp)

theorem consumer (f : ConsumeFunction E) : (Shape.consumer p f).Closed p calls :=
  .single (by simp) (by simp)

theorem backreference (register : CaptureRegister) : (Shape.backreference p register).Closed p calls :=
  .single (by simp) (by simp)

theorem atomic (h : body.Closed p calls) : (Shape.atomic p body).Closed p calls := by
  rintro lo _ ⟨mid, save, inner, clear, leave, fail, rfl⟩
  have first : p.Closed calls lo mid := (Program.Closed.plain save nofun nofun).append (h _ _ inner)
  have behind : p.Closed calls (mid + 1) (mid + 3) :=
    (Program.Closed.plain leave nofun nofun).append (.plain fail nofun nofun)
  exact first.append (.clear clear (Nat.lt_succ_self _) behind)

theorem lookahead {kind : Lookahead} (h : body.Closed p calls) :
    (Shape.lookahead p kind body).Closed p calls := by
  rintro lo _ ⟨mid, save, save', inner, clear, settled, rfl⟩
  have saves : p.Closed calls lo (lo + 2) :=
    (Program.Closed.plain save nofun nofun).append (.plain save' nofun nofun)
  have first : p.Closed calls lo mid := saves.append (h _ _ inner)
  have behind : p.Closed calls (mid + 1) (mid + 4) := by
    cases kind with
    | positive =>
      obtain ⟨one, two, three⟩ := settled
      exact ((Program.Closed.plain one nofun nofun).append (.plain two nofun nofun)).append
        (.plain three nofun nofun)
    | negative =>
      obtain ⟨one, two, three⟩ := settled
      exact ((Program.Closed.plain one nofun nofun).append (.plain two nofun nofun)).append
        (.plain three nofun nofun)
  have inside : interception kind mid < mid + 4 := by
    cases kind <;> simp only [interception] <;> omega
  exact first.append (.clear clear inside behind)

theorem branch {done : Nat} (h : body.Closed p calls) : (Shape.branch p done body).Closed p calls := by
  rintro lo _ ⟨mid, save, inner, leave, rfl⟩
  exact ((Program.Closed.plain save nofun nofun).append (h _ _ inner)).append
    (.plain leave nofun nofun)

theorem mandatory (h : body.Closed p calls) (n : Nat) : (Shape.mandatory body n).Closed p calls := by
  induction n with
  | zero => exact nothing
  | succ n ih => exact h.andThen ih

theorem choice {greedy : Bool} {exit : Nat} : (Shape.choice p greedy exit).Closed p calls := by
  intro lo hi placed
  cases greedy with
  | true =>
    obtain ⟨save, rfl⟩ := placed
    exact .plain save nofun nofun
  | false =>
    obtain ⟨save, leave, rfl⟩ := placed
    exact (Program.Closed.plain save nofun nofun).append (.plain leave nofun nofun)

theorem optional {greedy : Bool} {done : Nat} (h : body.Closed p calls) (n : Nat) :
    (Shape.optional p greedy done body n).Closed p calls := by
  induction n with
  | zero => exact nothing
  | succ n ih => exact choice.andThen (h.andThen ih)

theorem upTo {greedy : Bool} (h : body.Closed p calls) (n : Nat) :
    (Shape.upTo p n greedy body).Closed p calls :=
  fun lo hi placed => h.optional n lo hi placed

theorem iteration {register : PositionRegister} {exit : Nat} (h : body.Closed p calls) :
    (Shape.iteration p register exit body).Closed p calls := by
  rintro lo _ ⟨mid, stuck, start, inner, compare, leave, rfl, -⟩
  have first : p.Closed calls lo mid := (Program.Closed.plain start nofun nofun).append (h _ _ inner)
  exact (first.append (.plain compare nofun nofun)).append (.plain leave nofun nofun)

theorem loop {greedy : Bool} {body : Nat → Shape} (h : ∀ exit, (body exit).Closed p calls) :
    (Shape.loop p greedy body).Closed p calls := by
  rintro lo _ ⟨first, last, chosen, inner, back, rfl⟩
  exact ((choice _ _ chosen).append (h _ _ _ inner)).append (.plain back nofun nofun)

theorem star {greedy nullable : Bool} (h : body.Closed p calls) :
    (Shape.star p greedy nullable body).Closed p calls := by
  cases nullable with
  | false => exact loop fun _ => h
  | true =>
    rintro lo hi ⟨register, placed⟩
    exact loop (fun _ => h.iteration) lo hi placed

theorem repeated {least : Nat} {most : Option Nat} {greedy nullable : Bool}
    (h : body.Closed p calls) : (Shape.repeated p least most greedy nullable body).Closed p calls := by
  cases most with
  | none => exact (h.mandatory least).andThen h.star
  | some most => exact (h.mandatory least).andThen (h.upTo _)

theorem repetition {amount : Amount} {preference : Preference} {nullable : Bool}
    (h : body.Closed p calls) :
    (Shape.repetition p amount preference nullable body).Closed p calls := by
  cases preference with
  | greedy => exact h.repeated
  | reluctant => exact h.repeated
  | possessive => exact h.repeated.atomic

theorem capture {register : CaptureRegister} (h : body.Closed p calls) :
    (Shape.capture p register body).Closed p calls := by
  rintro lo _ ⟨mid, opens, inner, closes, rfl, -⟩
  exact ((Program.Closed.plain opens nofun nofun).append (h _ _ inner)).append
    (.plain closes nofun nofun)

end Shape.Closed

/-! ### Patterns -/

namespace Pattern

mutual

/-- The names that a pattern refers to. -/
def references : Pattern E → List String
  | concat parts => allReferences parts
  | alternation branches => allReferences branches
  | repetition _ _ body => body.references
  | capture _ _ body => body.references
  | reference name => [name]
  | lookahead _ body => body.references
  | atomic body => body.references
  | empty | any | element _ | literal _ | predicate _ | consumer _ | anchor _ | backreference _ => []

def allReferences : List (Pattern E) → List String
  | [] => []
  | q :: rest => q.references ++ allReferences rest

end

/-- Code that enters functions as `entry` says enters one of them. -/
def Entered (entry : String → Option Address) (names : List String) : Prop :=
  ∃ name ∈ names, (entry name).isSome

theorem Entered.left {entry : String → Option Address} {names : List String} (more : List String)
    (h : Entered entry names) : Entered entry (names ++ more) :=
  h.imp fun _ h => ⟨List.mem_append_left _ h.1, h.2⟩

theorem Entered.right {entry : String → Option Address} {names : List String} (more : List String)
    (h : Entered entry names) : Entered entry (more ++ names) :=
  h.imp fun _ h => ⟨List.mem_append_right _ h.1, h.2⟩

variable {p : Program E} {entry : String → Option Address}

mutual

theorem placed_closed (q : Pattern E) :
    (q.Placed p entry).Closed p (Entered entry q.references) := by
  cases q with
  | empty => exact .nothing
  | any => exact .single (by simp) (by simp)
  | element e => exact .element e
  | literal elements => exact .literal elements
  | predicate f => exact .predicate f
  | consumer f => exact .consumer f
  | concat parts => exact placedParts_closed parts
  | alternation branches => exact fun lo hi => placedBranches_closed branches lo hi
  | repetition amount preference body => exact (placed_closed body).repetition
  | capture index name body => exact (placed_closed body).capture
  | reference name =>
    refine .single (by simp) fun a means => ?_
    obtain ⟨_, -, entered⟩ := means
    exact ⟨name, List.mem_singleton_self name, by rw [entered]; rfl⟩
  | lookahead kind body => exact (placed_closed body).lookahead
  | atomic body => exact (placed_closed body).atomic
  | anchor a =>
    cases a with
    | start => exact .consumer startOfInput
    | stop => exact .lookahead (.single (by simp) (by simp))
  | backreference index => exact .backreference _

theorem placedParts_closed (parts : List (Pattern E)) :
    (PlacedParts p entry parts).Closed p (Entered entry (allReferences parts)) := by
  cases parts with
  | nil => exact .nothing
  | cons q rest =>
    exact ((placed_closed q).mono (.left _)).andThen ((placedParts_closed rest).mono (.right _))

theorem placedBranches_closed {done : Nat} (branches : List (Pattern E)) :
    (PlacedBranches p entry done branches).Closed p (Entered entry (allReferences branches)) := by
  match branches with
  | [] => exact .single (by simp) (by simp)
  | [q] => exact (placed_closed q).mono (.left _)
  | q :: q' :: rest =>
    exact ((placed_closed q).mono (.left _)).branch.andThen
      ((placedBranches_closed (q' :: rest)).mono (.right _))

end

end Pattern

end PatternMachine

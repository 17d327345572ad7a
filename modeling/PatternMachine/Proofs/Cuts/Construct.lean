import PatternMachine.Proofs.Cuts.Stages

/-! The code of every pattern brings its start to a right stage as soon as its end is at one, whatever is
around it, if that is caught behind the code. So all of a compiled program is at right stages. -/
namespace PatternMachine

variable {E : Type} {p : Program E} {entries : Address → Prop}

/-- The constructs around some code that ends at `hi` are caught behind it. -/
def Enclosure.Beyond (hi : Nat) (bodies : List Enclosure) : Prop :=
  ∀ e ∈ bodies, hi ≤ e.catching.index

theorem Enclosure.Beyond.mono {lo hi : Nat} {bodies : List Enclosure} (h : Beyond hi bodies)
    (le : lo ≤ hi) : Beyond lo bodies := fun e member => Nat.le_trans le (h e member)

theorem Enclosure.Beyond.cons {hi : Nat} {bodies : List Enclosure} {e : Enclosure}
    (h : Beyond hi bodies) (le : hi ≤ e.catching.index) : Beyond hi (e :: bodies) :=
  List.forall_mem_cons.mpr ⟨le, h⟩

theorem Enclosure.Beyond.apart {hi : Nat} {bodies : List Enclosure} {e : Enclosure}
    (h : Beyond hi bodies) (lt : e.catching.index < hi) : e.Apart bodies :=
  fun e' member same => absurd (h e' member) (Nat.not_le.mpr (same ▸ lt))

/-- Code of the shape keeps to itself, and leads from right stages at its end to right stages at its
start. -/
structure Shape.Staged (p : Program E) (entries : Address → Prop) (shape : Shape) : Prop where
  closed : shape.Closed p True
  leads : ∀ lo hi, shape lo hi → ∀ exits d, Enclosure.Beyond hi d →
    p.Staged entries exits hi (.inside d) → p.Staged entries exits lo (.inside d)

namespace Shape.Staged

open Program (Staged)

variable {shape shape' body : Shape} {exits : Nat → Stage → Prop} {lo hi : Nat} {d : List Enclosure}

theorem nothing : Shape.nothing.Staged p entries where
  closed := .nothing
  leads lo hi placed exits d beyond behind := by
    cases placed
    exact behind

theorem andThen (h : shape.Staged p entries) (h' : shape'.Staged p entries) :
    (Shape.andThen shape shape').Staged p entries where
  closed := h.closed.andThen h'.closed
  leads := by
    rintro lo hi ⟨mid, first, second⟩ exits d beyond behind
    have later := h'.leads mid hi second exits d beyond behind
    exact h.leads lo mid first exits d (beyond.mono (h'.closed mid hi second).le) later

/-- One instruction. -/
theorem single {means : Operation → Prop} (closed : (Shape.single p means).Closed p True)
    (h : ∀ op, means op → ∀ next i d, next (i + 1) (.inside d) →
      op.Staged p entries next i (.inside d)) : (Shape.single p means).Staged p entries where
  closed := closed
  leads := by
    rintro lo _ ⟨rfl, op, known, meaning⟩ exits d beyond behind
    exact .step known (h op meaning _ lo d behind)

theorem any : (Shape.single p (· = .consume ⟨1⟩)).Staged p entries :=
  .single (.single (by simp) (by simp)) fun _ eq _ _ d behind => by cases eq; exact ⟨d, rfl, behind⟩

theorem element (e : E) : (Shape.element p e).Staged p entries :=
  .single (.element e) fun _ eq _ _ d behind => by
    obtain ⟨r, rfl, -⟩ := eq
    exact ⟨d, rfl, behind⟩

theorem literal (elements : List E) : (Shape.literal p elements).Staged p entries := by
  induction elements with
  | nil => exact nothing
  | cons e rest ih => exact (element e).andThen ih

theorem predicate (f : E → Bool) : (Shape.predicate p f).Staged p entries :=
  .single (.predicate f) fun _ eq _ _ d behind => by
    obtain ⟨r, rfl, -⟩ := eq
    exact ⟨d, rfl, behind⟩

theorem consumer (f : ConsumeFunction E) : (Shape.consumer p f).Staged p entries :=
  .single (.consumer f) fun _ eq _ _ d behind => by
    obtain ⟨r, rfl, -⟩ := eq
    exact ⟨d, rfl, behind⟩

theorem backreference (register : CaptureRegister) :
    (Shape.backreference p register).Staged p entries :=
  .single (.backreference register) fun _ eq _ _ d behind => by
    obtain ⟨rfl, -⟩ := eq
    exact ⟨d, rfl, behind⟩

theorem atomic (h : body.Staged p entries) : (Shape.atomic p body).Staged p entries where
  closed := h.closed.atomic
  leads := by
    intro lo hi placed exits d beyond behind
    have closed := h.closed.atomic lo hi placed
    obtain ⟨mid, inner, save, closes, rfl⟩ := Program.encloses_of_atomic placed
    let e := Enclosure.atomic mid
    obtain ⟨clear, leave, fail⟩ := id closes
    have lt : lo < mid := (h.closed _ _ inner).le
    have landing : p.Landing e.done := .inl ⟨lo, _, Nat.lt_add_right 3 lt, save, closed⟩
    have failing : p.Staged entries exits (mid + 2) (.inside d) := .step fail trivial
    have leaving : p.Staged entries exits (mid + 1) (.inside d) := .step leave ⟨d, rfl, landing, behind⟩
    have clearing : p.Staged entries exits mid (.inside (e :: d)) :=
      .step clear ⟨e, d, rfl, rfl, rfl, closes, leaving⟩
    have around : Enclosure.Beyond mid (e :: d) :=
      (beyond.mono (Nat.le_add_right mid 3)).cons (Nat.le_add_right mid 2)
    have entering := h.leads _ _ inner _ _ around clearing
    exact .step save (.atomic save closes rfl (beyond.apart (Nat.lt_succ_self _)) failing entering)

theorem lookahead {kind : Lookahead} (h : body.Staged p entries) :
    (Shape.lookahead p kind body).Staged p entries where
  closed := h.closed.lookahead
  leads := by
    intro lo hi placed exits d beyond behind
    have closed := h.closed.lookahead lo hi placed
    obtain ⟨mid, inner, opens, closes, rfl⟩ := Program.encloses_of_lookahead placed
    let e := Enclosure.assertion kind mid
    obtain ⟨clear, settled⟩ := id closes
    have le : lo + 2 ≤ mid := (h.closed _ _ inner).le
    have lt : lo < mid + 4 := by omega
    have after : p.Behind e.done := ⟨lo, _, lt, opens.1, closed⟩
    have both : p.Staged entries exits (mid + 1) (.settled d) ∧
        p.Staged entries exits (interception kind mid) (.settled d) := by
      cases kind with
      | positive =>
        obtain ⟨first, second, third⟩ := settled
        have failing : p.Staged entries exits (mid + 3) (.inside d) := .step third trivial
        exact ⟨.step first trivial, .step second ⟨d, rfl, failing⟩⟩
      | negative =>
        obtain ⟨first, second, third⟩ := settled
        have failing : p.Staged entries exits (mid + 2) (.inside d) := .step second trivial
        exact ⟨.step first ⟨d, rfl, failing⟩, .step third trivial⟩
    have clearing : p.Staged entries exits mid (.inside (e :: d)) :=
      .step clear ⟨e, d, rfl, rfl, rfl, closes, both.1⟩
    have around : Enclosure.Beyond mid (e :: d) :=
      (beyond.mono (Nat.le_add_right mid 4)).cons (Nat.le_of_lt (Program.Closes.mid_lt_catching e))
    have entering := h.leads _ _ inner _ _ around clearing
    have inside : e.catching.index < mid + 4 := by
      cases kind <;> simp only [e, Enclosure.catching, interception] <;> omega
    have second : p.Staged entries exits (lo + 1) (.entered kind mid d) :=
      .step opens.2 (.catching rfl (beyond.apart inside) both.2 entering)
    exact .step opens.1 (.assertion opens closes rfl after behind second)

/-- The exit of a branch is staged like its end. -/
theorem branch {done : Nat} (h : body.Staged p entries) (placed : Shape.branch p done body lo hi)
    (landing : p.Landing ⟨done⟩) (beyond : Enclosure.Beyond hi d)
    (leaves : p.Staged entries exits done (.inside d)) (behind : p.Staged entries exits hi (.inside d)) :
    p.Staged entries exits lo (.inside d) := by
  have closed := h.closed.branch lo hi placed
  obtain ⟨mid, save, inner, leave, rfl⟩ := placed
  have lt : lo + 1 ≤ mid := (h.closed _ _ inner).le
  have leaving : p.Staged entries exits mid (.inside d) := .step leave ⟨d, rfl, landing, leaves⟩
  have entering := h.leads _ _ inner _ _ (beyond.mono (Nat.le_succ mid)) leaving
  have after : p.Behind ⟨mid + 1⟩ := ⟨lo, _, by simp only; omega, save, closed⟩
  exact .step save (.alternative after behind entering)

theorem choice {greedy : Bool} {exit first : Nat} (chosen : Shape.choice p greedy exit lo first)
    (closed : p.Closed True lo exit) (lt : lo < exit)
    (leaves : p.Staged entries exits exit (.inside d))
    (behind : p.Staged entries exits first (.inside d)) :
    p.StagedBy entries (p.Staged entries exits) lo (.inside d) := by
  have left := Program.choice_leftover chosen closed lt
  cases greedy with
  | true =>
    obtain ⟨save, rfl⟩ := chosen
    exact ⟨_, save, .alternative (left _ save).behind leaves behind⟩
  | false =>
    obtain ⟨save, leave, rfl⟩ := chosen
    have landing : p.Landing ⟨exit⟩ := .inl ⟨lo, _, lt, save, closed⟩
    have leaving : p.Staged entries exits (lo + 1) (.inside d) := .step leave ⟨d, rfl, landing, leaves⟩
    exact ⟨_, save, .alternative (left _ save).behind behind leaving⟩

theorem mandatory (h : body.Staged p entries) (n : Nat) :
    (Shape.mandatory body n).Staged p entries := by
  induction n with
  | zero => exact nothing
  | succ n ih => exact h.andThen ih

theorem optional {greedy : Bool} (h : body.Staged p entries) (n : Nat) :
    ∀ lo, Shape.optional p greedy hi body n lo hi → Enclosure.Beyond hi d →
      p.Staged entries exits hi (.inside d) → p.Staged entries exits lo (.inside d) := by
  induction n with
  | zero =>
    intro lo placed _ behind
    cases placed
    exact behind
  | succ n ih =>
    intro lo placed beyond behind
    have closed := h.closed.optional (n + 1) lo hi placed
    obtain ⟨first, chosen, second, inner, rest⟩ := placed
    have le : second ≤ hi := (h.closed.optional n second hi rest).le
    have lt : lo < hi := by
      have := Program.lt_of_choice chosen
      have := (h.closed first second inner).le
      omega
    have entering := h.leads _ _ inner _ _ (beyond.mono le) (ih second rest beyond behind)
    exact Upheld.step Program.StagedBy.mono (choice chosen closed lt behind entering)

theorem upTo {greedy : Bool} (h : body.Staged p entries) (n : Nat) :
    (Shape.upTo p n greedy body).Staged p entries where
  closed := h.closed.upTo n
  leads lo _ placed _ _ beyond behind := h.optional n lo placed beyond behind

/-- The exit of an iteration stands behind the jump back. -/
theorem iteration {register : PositionRegister} (h : body.Staged p entries)
    (placed : Shape.iteration p register (hi + 1) body lo hi) (landing : p.Landing ⟨hi + 1⟩)
    (beyond : Enclosure.Beyond hi d) (leaves : p.Staged entries exits (hi + 1) (.inside d))
    (behind : p.Staged entries exits hi (.inside d)) : p.Staged entries exits lo (.inside d) := by
  obtain ⟨mid, stuck, start, inner, compare, leave, rfl, -⟩ := placed
  have leaving : p.Staged entries exits (mid + 1) (.inside d) :=
    .step leave ⟨d, rfl, landing, leaves, behind⟩
  have comparing : p.Staged entries exits mid (.inside d) := .step compare ⟨d, rfl, leaving⟩
  have entering := h.leads _ _ inner _ _ (beyond.mono (Nat.le_add_right mid 2)) comparing
  exact .step start ⟨d, rfl, entering⟩

theorem loop {greedy : Bool} {body : Nat → Shape} (closed : ∀ exit, (body exit).Closed p True)
    (h : ∀ lo hi, body (hi + 1) lo hi → p.Landing ⟨hi + 1⟩ → ∀ exits d, Enclosure.Beyond hi d →
      p.Staged entries exits (hi + 1) (.inside d) → p.Staged entries exits hi (.inside d) →
        p.Staged entries exits lo (.inside d)) : (Shape.loop p greedy body).Staged p entries where
  closed := .loop closed
  leads := by
    intro lo hi placed exits d beyond behind
    have whole := Shape.Closed.loop closed lo hi placed
    obtain ⟨first, last, chosen, inner, again, rfl⟩ := placed
    have lt : lo < last + 1 := by
      have := Program.lt_of_choice chosen
      have := (closed _ _ _ inner).le
      omega
    obtain ⟨b, save⟩ : ∃ b, p.operation? lo = some (.save b) := by
      cases greedy with
      | true => exact ⟨_, chosen.1⟩
      | false => exact ⟨_, chosen.1⟩
    have landing : p.Landing ⟨last + 1⟩ := .inl ⟨lo, b, lt, save, whole⟩
    -- The jump back leads to the point that is being staged.
    refine Upheld.loop Program.StagedBy.mono ?_
    have leaves : p.Staged entries (fun j σ => exits j σ ∨ (j = lo ∧ σ = .inside d)) (last + 1)
        (.inside d) := behind.widen Program.StagedBy.mono fun _ _ => .inl
    have back : p.Staged entries (fun j σ => exits j σ ∨ (j = lo ∧ σ = .inside d)) last (.inside d) :=
      .step again ⟨d, rfl, .inr (.inl ⟨b, save⟩), .exit (.inr ⟨rfl, rfl⟩)⟩
    have around := beyond.mono (Nat.le_succ last)
    exact choice chosen whole lt leaves (h _ _ inner landing _ _ around leaves back)

theorem star {greedy nullable : Bool} (h : body.Staged p entries) :
    (Shape.star p greedy nullable body).Staged p entries := by
  cases nullable with
  | false =>
    refine loop (fun _ => h.closed) ?_
    intro lo hi inner _ exits d beyond _ behind
    exact h.leads lo hi inner exits d beyond behind
  | true =>
    refine ⟨h.closed.star, ?_⟩
    rintro lo hi ⟨register, placed⟩
    refine (loop (fun _ => h.closed.iteration) ?_).leads lo hi placed
    intro lo hi inner landing exits d beyond leaves behind
    exact h.iteration inner landing beyond leaves behind

theorem repeated {least : Nat} {most : Option Nat} {greedy nullable : Bool}
    (h : body.Staged p entries) :
    (Shape.repeated p least most greedy nullable body).Staged p entries := by
  cases most with
  | none => exact (h.mandatory least).andThen h.star
  | some most => exact (h.mandatory least).andThen (h.upTo _)

theorem repetition {amount : Amount} {preference : Preference} {nullable : Bool}
    (h : body.Staged p entries) :
    (Shape.repetition p amount preference nullable body).Staged p entries := by
  cases preference with
  | greedy => exact h.repeated
  | reluctant => exact h.repeated
  | possessive => exact h.repeated.atomic

theorem capture {register : CaptureRegister} (h : body.Staged p entries) :
    (Shape.capture p register body).Staged p entries where
  closed := h.closed.capture
  leads := by
    rintro lo _ ⟨mid, opens, inner, closes, rfl, -⟩ exits d beyond behind
    have closing : p.Staged entries exits mid (.inside d) := .step closes ⟨d, rfl, behind⟩
    have entering := h.leads _ _ inner _ _ (beyond.mono (Nat.le_succ mid)) closing
    exact .step opens ⟨d, rfl, entering⟩

end Shape.Staged

/-! ### Patterns -/

namespace Pattern

variable {entry : String → Option Address}

mutual

theorem placed_staged (known : ∀ name a, entry name = some a → entries a) (q : Pattern E) :
    (q.Placed p entry).Staged p entries := by
  cases q with
  | empty => exact .nothing
  | any => exact .any
  | element e => exact .element e
  | literal elements => exact .literal elements
  | predicate f => exact .predicate f
  | consumer f => exact .consumer f
  | concat parts => exact placedParts_staged known parts
  | alternation branches =>
    exact ⟨(placed_closed (alternation branches)).mono fun _ => trivial,
      fun lo hi placed _ _ => placedBranches_staged known branches lo hi placed⟩
  | repetition amount preference body => exact (placed_staged known body).repetition
  | capture index name body => exact (placed_staged known body).capture
  | reference name =>
    refine .single (.single (by simp) (by simp)) ?_
    rintro _ ⟨a, rfl, entered⟩ next i d behind
    exact ⟨d, rfl, known name a entered, behind⟩
  | lookahead kind body => exact (placed_staged known body).lookahead
  | atomic body => exact (placed_staged known body).atomic
  | anchor a =>
    cases a with
    | start => exact .consumer startOfInput
    | stop => exact .lookahead .any
  | backreference index => exact .backreference ⟨index⟩

theorem placedParts_staged (known : ∀ name a, entry name = some a → entries a)
    (parts : List (Pattern E)) :
    (PlacedParts p entry parts).Staged p entries := by
  cases parts with
  | nil => exact .nothing
  | cons q rest => exact (placed_staged known q).andThen (placedParts_staged known rest)

theorem placedBranches_staged (known : ∀ name a, entry name = some a → entries a)
    (branches : List (Pattern E)) (lo hi : Nat)
    (placed : PlacedBranches p entry hi branches lo hi) {exits : Nat → Stage → Prop}
    {d : List Enclosure} (beyond : Enclosure.Beyond hi d)
    (behind : p.Staged entries exits hi (.inside d)) : p.Staged entries exits lo (.inside d) := by
  match branches with
  | [] =>
    obtain ⟨rfl, _, fail, rfl⟩ := placed
    exact .step fail trivial
  | [q] => exact (placed_staged known q).leads lo hi placed exits d beyond behind
  | q :: q' :: rest =>
    have closed : p.Closed True lo hi :=
      (placedBranches_closed (q :: q' :: rest) lo hi placed).mono fun _ => trivial
    obtain ⟨mid, first, others⟩ := placed
    have le := (placedBranches_closed (q' :: rest) mid hi others).le
    have later := placedBranches_staged known (q' :: rest) mid hi others beyond behind
    have lt : lo < hi := by
      obtain ⟨end_, -, inner, -, rfl⟩ := first
      have := (placed_closed q _ _ inner).le
      omega
    have landing : p.Landing ⟨hi⟩ := .inl ⟨lo, _, lt, first.choose_spec.1, closed⟩
    exact (placed_staged known q).branch first landing (beyond.mono le) behind later

end

end Pattern

/-! ### Programs -/

/-- The start of the program and all entries of functions are at right stages, with nothing around. -/
structure Program.WellStaged (p : Program E) (entries : Address → Prop) : Prop where
  start : p.Staged entries (fun _ _ => False) 0 (.inside [])
  functions : ∀ a, entries a → p.Landing a ∧ p.Staged entries (fun _ _ => False) a.index (.inside [])

theorem Pattern.Compiled.wellStaged {q : Pattern E} {hi : Nat} (h : q.Compiled p hi) :
    p.WellStaged fun _ => False where
  start := by
    have behind : p.Staged (fun _ => False) (fun _ _ => False) hi (.inside []) :=
      .step h.accepts trivial
    have staged : (q.Placed p fun _ => none).Staged p fun _ => False :=
      q.placed_staged fun _ _ known => nomatch known
    exact staged.leads _ _ h.placed _ _ (List.forall_mem_nil _) behind
  functions _ none := none.elim

theorem Grammar.Placed.wellStaged {g : Grammar E} {entry : String → Option Address}
    (h : g.Placed p entry) : p.WellStaged fun a => ∃ name, entry name = some a := by
  have functions : ∀ a, (∃ name, entry name = some a) → p.Landing a ∧
      p.Staged (fun a => ∃ name, entry name = some a) (fun _ _ => False) a.index (.inside []) := by
    rintro a ⟨name, entered⟩
    obtain ⟨body, -, comment, hi, first, -, inner, last⟩ := h.functions name a entered
    have behind : p.Staged (fun a => ∃ name, entry name = some a) (fun _ _ => False) hi (.inside []) :=
      .step last rfl
    have staged : (body.Placed p entry).Staged p fun a => ∃ name, entry name = some a :=
      body.placed_staged fun name a entered => ⟨name, entered⟩
    have inside := staged.leads _ _ inner _ _ (List.forall_mem_nil _) behind
    exact ⟨.inr (.inr ⟨_, first⟩), .step first ⟨[], rfl, inside⟩⟩
  obtain ⟨a, entered, jump⟩ := h.start
  obtain ⟨landing, staged⟩ := functions a ⟨_, entered⟩
  exact ⟨.step jump ⟨[], rfl, landing, staged⟩, functions⟩

end PatternMachine

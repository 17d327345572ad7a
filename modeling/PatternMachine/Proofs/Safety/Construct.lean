import PatternMachine.Proofs.Except
import PatternMachine.Proofs.Layout.Program
import PatternMachine.Proofs.Safety.Typing

/-! The code of every pattern types its start as soon as its end is typed, whatever is open around it.
So all of a compiled program is typed, and so are the entries of its functions. -/
namespace PatternMachine

variable {E : Type} {p : Program E} {callees : Callees E}

/-- Code of the shape leads from typed ends to typed starts. -/
def Shape.Sound (p : Program E) (callees : Callees E) (shape : Shape) : Prop :=
  ∀ lo hi, shape lo hi → ∀ exits d, p.Typed callees exits hi d → p.Typed callees exits lo d

namespace Shape

variable {shape shape' body : Shape} {exits : Nat → Context → Prop} {lo hi : Nat} {d : Context}

theorem nothing_sound : nothing.Sound p callees := by
  rintro lo _ rfl exits d behind
  exact behind

theorem andThen_sound (h : shape.Sound p callees) (h' : shape'.Sound p callees) :
    (andThen shape shape').Sound p callees := by
  rintro lo hi ⟨mid, first, second⟩ exits d behind
  exact h lo mid first exits d (h' mid hi second exits d behind)

theorem single_sound {means : Operation → Prop}
    (h : ∀ op, means op → ∀ next i d, next (i + 1) d → op.Typed p callees next i d) :
    (single p means).Sound p callees := by
  rintro lo _ ⟨rfl, op, known, meaning⟩ exits d behind
  exact .step ⟨op, known, h op meaning _ lo d behind⟩

theorem size_of_getElem? {α : Type} {xs : Array α} {i : Nat} {x : α} (h : xs[i]? = some x) :
    i < xs.size := (Array.getElem?_eq_some_iff.mp h).1

theorem element_sound (e : E) : (element p e).Sound p callees := by
  refine single_sound ?_
  rintro _ ⟨r, rfl, known⟩ next i d behind
  exact ⟨size_of_getElem? known, behind⟩

theorem literal_sound (elements : List E) : (literal p elements).Sound p callees := by
  induction elements with
  | nil => exact nothing_sound
  | cons e rest ih => exact andThen_sound (element_sound e) ih

theorem predicate_sound (f : E → Bool) : (predicate p f).Sound p callees := by
  refine single_sound ?_
  rintro _ ⟨r, rfl, known⟩ next i d behind
  exact ⟨size_of_getElem? known, behind⟩

theorem consumer_sound {f : ConsumeFunction E} (allowed : callees.consumers f) :
    (consumer p f).Sound p callees := by
  refine single_sound ?_
  rintro _ ⟨r, rfl, known⟩ next i d behind
  exact ⟨f, known, allowed, behind⟩

theorem atomic_sound (h : body.Sound p callees) : (atomic p body).Sound p callees := by
  rintro lo _ ⟨mid, save, inner, clear, leave, fail, rfl⟩ exits d behind
  have failing : p.Typed callees exits (mid + 2) d := .step ⟨_, fail, trivial⟩
  have leaving : p.Typed callees exits (mid + 1) d := .step ⟨_, leave, behind⟩
  have clearing : p.Typed callees exits mid (.mark ⟨mid + 2⟩ :: d) :=
    .step ⟨_, clear, d, rfl, leaving⟩
  exact .step ⟨_, save, failing, .inr (h _ _ inner _ _ clearing)⟩

theorem lookahead_sound {kind : Lookahead} (h : body.Sound p callees) :
    (lookahead p kind body).Sound p callees := by
  rintro lo _ ⟨mid, save, save', inner, clear, settled, rfl⟩ exits d behind
  have both : p.Typed callees exits (mid + 1) (.mark ⟨mid + 4⟩ :: d) ∧
      p.Typed callees exits (interception kind mid) (.mark ⟨mid + 4⟩ :: d) := by
    cases kind with
    | positive =>
      obtain ⟨first, second, third⟩ := settled
      have failing : p.Typed callees exits (mid + 3) d := .step ⟨_, third, trivial⟩
      exact ⟨.step ⟨_, first, trivial⟩, .step ⟨_, second, _, _, rfl, failing⟩⟩
    | negative =>
      obtain ⟨first, second, third⟩ := settled
      have failing : p.Typed callees exits (mid + 2) d := .step ⟨_, second, trivial⟩
      exact ⟨.step ⟨_, first, _, _, rfl, failing⟩, .step ⟨_, third, trivial⟩⟩
  have clearing : p.Typed callees exits mid
      (.mark ⟨interception kind mid⟩ :: .mark ⟨mid + 4⟩ :: d) :=
    .step ⟨_, clear, _, rfl, both.1⟩
  have catching := h _ _ inner _ _ clearing
  have second : p.Typed callees exits (lo + 1) (.mark ⟨mid + 4⟩ :: d) :=
    .step ⟨_, save', both.2, .inr catching⟩
  exact .step ⟨_, save, behind, .inr second⟩

/-- The exit of a branch is typed like its end. -/
theorem branch_sound {done : Nat} (h : body.Sound p callees) (placed : branch p done body lo hi)
    (leaves : p.Typed callees exits done d) (behind : p.Typed callees exits hi d) :
    p.Typed callees exits lo d := by
  obtain ⟨mid, save, inner, leave, rfl⟩ := placed
  have leaving : p.Typed callees exits mid d := .step ⟨_, leave, leaves⟩
  exact .step ⟨_, save, behind, .inl (h _ _ inner _ _ leaving)⟩

theorem choice_rule {greedy : Bool} {exit : Nat} (placed : choice p greedy exit lo hi)
    (leaves : p.Typed callees exits exit d) (behind : p.Typed callees exits hi d) :
    p.TypedBy callees (p.Typed callees exits) lo d := by
  cases greedy with
  | true =>
    obtain ⟨save, rfl⟩ := placed
    exact ⟨_, save, leaves, .inl behind⟩
  | false =>
    obtain ⟨save, leave, rfl⟩ := placed
    have leaving : p.Typed callees exits (lo + 1) d := .step ⟨_, leave, leaves⟩
    exact ⟨_, save, behind, .inl leaving⟩

theorem mandatory_sound (h : body.Sound p callees) (n : Nat) :
    (mandatory body n).Sound p callees := by
  induction n with
  | zero => exact nothing_sound
  | succ n ih => exact andThen_sound h ih

theorem optional_sound {greedy : Bool} {done : Nat} (h : body.Sound p callees) (n : Nat)
    (placed : optional p greedy done body n lo hi) (leaves : p.Typed callees exits done d)
    (behind : p.Typed callees exits hi d) : p.Typed callees exits lo d := by
  induction n generalizing lo with
  | zero => cases placed; exact behind
  | succ n ih =>
    obtain ⟨first, chosen, second, inner, rest⟩ := placed
    exact .step (choice_rule chosen leaves (h _ _ inner _ _ (ih rest)))

theorem upTo_sound {greedy : Bool} (h : body.Sound p callees) (n : Nat) :
    (upTo p n greedy body).Sound p callees := by
  intro lo hi placed exits d behind
  exact optional_sound h n placed behind behind

/-- The exit of an iteration stands behind the jump back. -/
theorem iteration_sound {register : PositionRegister} (h : body.Sound p callees)
    (placed : iteration p register (hi + 1) body lo hi)
    (leaves : p.Typed callees exits (hi + 1) d) (behind : p.Typed callees exits hi d) :
    p.Typed callees exits lo d := by
  obtain ⟨mid, stuck, start, inner, compare, leave, rfl, bound, bound', -⟩ := placed
  have leaving : p.Typed callees exits (mid + 1) d :=
    .step ⟨_, leave, bound', leaves, behind⟩
  have comparing : p.Typed callees exits mid (.iteration register :: d) :=
    .step ⟨_, compare, bound, bound', d, rfl, leave, leaving⟩
  exact .step ⟨_, start, bound, h _ _ inner _ _ comparing⟩

theorem loop_sound {greedy : Bool} {body : Nat → Shape}
    (h : ∀ lo hi, body (hi + 1) lo hi → ∀ exits d, p.Typed callees exits (hi + 1) d →
      p.Typed callees exits hi d → p.Typed callees exits lo d) :
    (loop p greedy body).Sound p callees := by
  rintro lo _ ⟨first, last, chosen, inner, again, rfl⟩ exits d behind
  -- The jump back leads to the point that is being typed.
  refine .loop ?_
  have leaves : p.Typed callees (fun j e => exits j e ∨ (j = lo ∧ e = d)) (last + 1) d :=
    behind.widen fun _ _ => .inl
  have back : p.Typed callees (fun j e => exits j e ∨ (j = lo ∧ e = d)) last d :=
    .step ⟨_, again, .exit (.inr ⟨rfl, rfl⟩)⟩
  exact choice_rule chosen leaves (h _ _ inner _ _ leaves back)

theorem star_sound {greedy nullable : Bool} (h : body.Sound p callees) :
    (star p greedy nullable body).Sound p callees := by
  cases nullable with
  | false => exact loop_sound fun lo hi inner exits d _ behind => h lo hi inner exits d behind
  | true =>
    rintro lo hi ⟨register, placed⟩
    exact loop_sound (fun _ _ inner _ _ => iteration_sound h inner) lo hi placed

theorem repeated_sound {least : Nat} {most : Option Nat} {greedy nullable : Bool}
    (h : body.Sound p callees) : (repeated p least most greedy nullable body).Sound p callees := by
  cases most with
  | none => exact andThen_sound (mandatory_sound h least) (star_sound h)
  | some most => exact andThen_sound (mandatory_sound h least) (upTo_sound h _)

theorem repetition_sound {amount : Amount} {preference : Preference} {nullable : Bool}
    (h : body.Sound p callees) :
    (repetition p amount preference nullable body).Sound p callees := by
  cases preference with
  | greedy => exact repeated_sound h
  | reluctant => exact repeated_sound h
  | possessive => exact atomic_sound (repeated_sound h)

theorem capture_sound {register : CaptureRegister} (h : body.Sound p callees) :
    (capture p register body).Sound p callees := by
  rintro lo _ ⟨mid, opens, inner, closes, rfl, bound⟩ exits d behind
  have closing : p.Typed callees exits mid (.group register :: d) :=
    .step ⟨_, closes, bound, d, rfl, behind⟩
  exact .step ⟨_, opens, bound, h _ _ inner _ _ closing⟩

theorem backreference_sound {register : CaptureRegister} :
    (backreference p register).Sound p callees := by
  refine single_sound ?_
  rintro _ ⟨rfl, bound⟩ next i d behind
  exact ⟨bound, behind⟩

end Shape

/-! ### Patterns -/

namespace Pattern

mutual

/-- All consume functions in the pattern have a property. -/
def Consumers (P : ConsumeFunction E → Prop) : Pattern E → Prop
  | consumer f => P f
  | concat parts => AllConsumers P parts
  | alternation branches => AllConsumers P branches
  | repetition _ _ body => body.Consumers P
  | capture _ _ body => body.Consumers P
  | lookahead _ body => body.Consumers P
  | atomic body => body.Consumers P
  | empty | any | element _ | literal _ | predicate _ | reference _ | anchor _ | backreference _ =>
    True

def AllConsumers (P : ConsumeFunction E → Prop) : List (Pattern E) → Prop
  | [] => True
  | q :: rest => q.Consumers P ∧ AllConsumers P rest

end

mutual

theorem consumers_true (q : Pattern E) : q.Consumers fun _ => True := by
  cases q with
  | consumer f => trivial
  | concat parts => exact allConsumers_true parts
  | alternation branches => exact allConsumers_true branches
  | repetition amount preference body => exact consumers_true body
  | capture index name body => exact consumers_true body
  | lookahead kind body => exact consumers_true body
  | atomic body => exact consumers_true body
  | _ => trivial

theorem allConsumers_true (parts : List (Pattern E)) : AllConsumers (fun _ => True) parts := by
  cases parts with
  | nil => trivial
  | cons q rest => exact ⟨consumers_true q, allConsumers_true rest⟩

end

theorem startOfInput_bounded : (startOfInput : ConsumeFunction E).Bounded := by
  intro input rest position le _ found
  unfold startOfInput at found
  split at found <;> cases found
  exact ⟨Nat.le_refl _, le⟩

variable {entry : String → Option Address}

/-- The callees of code that enters functions as `entry` says. -/
structure Allowed (callees : Callees E) (entry : String → Option Address) : Prop where
  functions : ∀ name a, entry name = some a → callees.functions a
  startOfInput : callees.consumers startOfInput

mutual

theorem placed_sound (allowed : Allowed callees entry) :
    (q : Pattern E) → q.Consumers callees.consumers → (q.Placed p entry).Sound p callees
  | empty, _ => Shape.nothing_sound
  | any, _ => Shape.single_sound fun _ eq _ _ _ behind => by cases eq; exact behind
  | element e, _ => Shape.element_sound e
  | literal elements, _ => Shape.literal_sound elements
  | predicate f, _ => Shape.predicate_sound f
  | consumer _, consumers => Shape.consumer_sound consumers
  | concat parts, consumers => placedParts_sound allowed parts consumers
  | alternation branches, consumers => fun _ _ placed _ _ behind =>
    placedBranches_sound allowed branches consumers placed behind behind
  | repetition _ _ body, consumers => Shape.repetition_sound (placed_sound allowed body consumers)
  | capture _ _ body, consumers => Shape.capture_sound (placed_sound allowed body consumers)
  | reference _, _ => Shape.single_sound fun _ eq _ _ _ behind => by
    obtain ⟨a, rfl, entered⟩ := eq
    exact ⟨allowed.functions _ a entered, behind⟩
  | lookahead _ body, consumers => Shape.lookahead_sound (placed_sound allowed body consumers)
  | atomic body, consumers => Shape.atomic_sound (placed_sound allowed body consumers)
  | anchor .start, _ => Shape.consumer_sound allowed.startOfInput
  | anchor .stop, _ =>
    Shape.lookahead_sound (Shape.single_sound fun _ eq _ _ _ behind => by cases eq; exact behind)
  | backreference _, _ => Shape.backreference_sound

theorem placedParts_sound (allowed : Allowed callees entry) :
    (parts : List (Pattern E)) → AllConsumers callees.consumers parts →
      (PlacedParts p entry parts).Sound p callees
  | [], _ => Shape.nothing_sound
  | q :: rest, consumers => Shape.andThen_sound (placed_sound allowed q consumers.1)
    (placedParts_sound allowed rest consumers.2)

theorem placedBranches_sound (allowed : Allowed callees entry) {done lo hi : Nat}
    {exits : Nat → Context → Prop} {d : Context} :
    (branches : List (Pattern E)) → AllConsumers callees.consumers branches →
      PlacedBranches p entry done branches lo hi → p.Typed callees exits done d →
      p.Typed callees exits hi d → p.Typed callees exits lo d
  | [], _, placed, _, behind =>
    Shape.single_sound (fun _ eq _ _ _ _ => by cases eq; trivial) _ _ placed _ _ behind
  | [q], consumers, placed, _, behind =>
    placed_sound allowed q consumers.1 _ _ placed _ _ behind
  | q :: q' :: rest, consumers, ⟨_, first, others⟩, leaves, behind =>
    Shape.branch_sound (placed_sound allowed q consumers.1) first leaves
      (placedBranches_sound allowed (q' :: rest) consumers.2 others leaves behind)

end

end Pattern

/-! ### Programs -/

/-- The start of the program and all entries of functions are typed, with nothing open. -/
structure Program.WellTyped (p : Program E) (callees : Callees E) : Prop where
  start : p.Typed callees (fun _ _ => False) 0 []
  functions : ∀ a, callees.functions a → p.Typed callees (fun _ _ => False) a.index []

variable {P : ConsumeFunction E → Prop}

theorem Pattern.Compiled.wellTyped {q : Pattern E} {hi : Nat} (h : q.Compiled p hi)
    (consumers : q.Consumers P) (start : P startOfInput) :
    p.WellTyped ⟨fun _ => False, P⟩ where
  start := by
    have behind : p.Typed ⟨fun _ => False, P⟩ (fun _ _ => False) hi [] :=
      .step ⟨_, h.accepts, trivial⟩
    have allowed : Allowed ⟨fun _ => False, P⟩ fun _ => none := ⟨nofun, start⟩
    exact placed_sound allowed q consumers _ _ h.placed _ _ behind
  functions _ none := none.elim

theorem Grammar.Placed.wellTyped {g : Grammar E} {entry : String → Option Address}
    (h : g.Placed p entry) (consumers : ∀ q ∈ g.productions, q.2.Consumers P)
    (start : P Pattern.startOfInput) : p.WellTyped ⟨fun a => ∃ name, entry name = some a, P⟩ := by
  let callees : Callees E := ⟨fun a => ∃ name, entry name = some a, P⟩
  have allowed : Pattern.Allowed callees entry := ⟨fun name a entered => ⟨name, entered⟩, start⟩
  have functions : ∀ a, callees.functions a → p.Typed callees (fun _ _ => False) a.index [] := by
    rintro a ⟨name, entered⟩
    obtain ⟨body, defined, comment, hi, first, named, inner, last⟩ := h.functions name a entered
    have member := g.mem_of_get? defined
    have behind : p.Typed callees (fun _ _ => False) hi [] := .step ⟨_, last, rfl⟩
    have inside := Pattern.placed_sound allowed body (consumers _ member) _ _ inner _ _ behind
    refine .step ⟨_, first, ?_, inside⟩
    rintro r eq
    cases eq
    exact Shape.size_of_getElem? named
  obtain ⟨a, entered, jump⟩ := h.start
  exact ⟨.step ⟨_, jump, functions a ⟨_, entered⟩⟩, functions⟩

end PatternMachine

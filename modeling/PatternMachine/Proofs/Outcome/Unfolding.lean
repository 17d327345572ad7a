import PatternMachine.Grammar
import PatternMachine.Proofs.Outcome.Basic

/-! What a grammar means. A reference has the outcomes of what it refers to, in their order, and the
captures are shared. A production may refer to itself without end, so it is unfolded with a given fuel;
what the fuel does not reach is not known. Without references, the outcomes are those of a pattern. -/
namespace PatternMachine

/-- Outcomes in their order, as far as they are known. -/
inductive Unfolding where
  | done
  /-- It is not known what comes next, or whether anything does. -/
  | unknown
  | more (m : Moment) (rest : Unfolding)
  deriving DecidableEq

namespace Unfolding

def ofList : List Moment → Unfolding
  | [] => done
  | m :: rest => more m (ofList rest)

/-- The outcomes that are known. -/
def known : Unfolding → List Moment
  | done => []
  | unknown => []
  | more m rest => m :: rest.known

def append : Unfolding → Unfolding → Unfolding
  | done, w => w
  | unknown, _ => unknown
  | more m rest, w => more m (rest.append w)

def bind : Unfolding → (Moment → Unfolding) → Unfolding
  | done, _ => done
  | unknown, _ => unknown
  | more m rest, o => (o m).append (rest.bind o)

def map (g : Moment → Moment) : Unfolding → Unfolding
  | done => done
  | unknown => unknown
  | more m rest => more (g m) (rest.map g)

/-- Only the first outcome counts. Whatever comes later need not be known. -/
def first : Unfolding → Unfolding
  | done => done
  | unknown => unknown
  | more m _ => more m done

/-- Nothing that the body of an assertion does is kept. -/
def assertion (kind : Lookahead) (m : Moment) : Unfolding → Unfolding
  | done =>
    match kind with
    | .positive => done
    | .negative => more m done
  | unknown => unknown
  | more _ _ =>
    match kind with
    | .positive => more m done
    | .negative => done

/-- The first outcome with a property, if it is known whether there is one. -/
def find? (holds : Moment → Bool) : Unfolding → Option (Option Moment)
  | done => some none
  | unknown => none
  | more m rest => if holds m then some (some m) else rest.find? holds

variable {w w' : Unfolding} {ms : List Moment} {m : Moment} {o : Moment → Unfolding}

theorem append_done (w : Unfolding) : w.append done = w := by
  induction w with
  | done => rfl
  | unknown => rfl
  | more m rest ih => rw [append, ih]

theorem map_id (w : Unfolding) : w.map id = w := by
  induction w with
  | done => rfl
  | unknown => rfl
  | more m rest ih => rw [map, ih]; rfl

@[simp] theorem known_ofList (ms : List Moment) : (ofList ms).known = ms := by
  induction ms with
  | nil => rfl
  | cons m rest ih => rw [ofList, known, ih]

theorem ofList_append (ms ms' : List Moment) :
    (ofList ms).append (ofList ms') = ofList (ms ++ ms') := by
  induction ms with
  | nil => rfl
  | cons m rest ih => rw [ofList, append, ih]; rfl

theorem ofList_bind {o' : Outcomes} (h : ∀ m ∈ ms, o m = ofList (o' m)) :
    (ofList ms).bind o = ofList (ms.flatMap o') := by
  induction ms with
  | nil => rfl
  | cons m rest ih =>
    rw [ofList, bind, h m List.mem_cons_self, ih fun m' member => h m' (List.mem_cons_of_mem _ member),
      ofList_append, List.flatMap_cons]

theorem ofList_map (g : Moment → Moment) (ms : List Moment) :
    (ofList ms).map g = ofList (ms.map g) := by
  induction ms with
  | nil => rfl
  | cons m rest ih => rw [ofList, map, ih]; rfl

theorem ofList_first (ms : List Moment) : (ofList ms).first = ofList (ms.take 1) := by
  cases ms <;> rfl

theorem ofList_assertion (kind : Lookahead) (m : Moment) (ms : List Moment) :
    (ofList ms).assertion kind m =
      ofList (match kind with
        | .positive => if ms.isEmpty then [] else [m]
        | .negative => if ms.isEmpty then [m] else []) := by
  cases kind <;> cases ms <;> rfl

theorem ofList_find? (holds : Moment → Bool) (ms : List Moment) :
    (ofList ms).find? holds = some (ms.find? holds) := by
  induction ms with
  | nil => rfl
  | cons m rest ih => cases h : holds m <;> simp [ofList, find?, h, ih]

theorem known_append (h : m ∈ (w.append w').known) : m ∈ w.known ∨ m ∈ w'.known := by
  induction w with
  | done => exact .inr h
  | unknown => cases h
  | more m' rest ih =>
    rcases List.mem_cons.mp h with rfl | h
    · exact .inl List.mem_cons_self
    · exact (ih h).imp_left (List.mem_cons_of_mem _)

theorem known_bind (h : m ∈ (w.bind o).known) : ∃ m' ∈ w.known, m ∈ (o m').known := by
  induction w with
  | done => cases h
  | unknown => cases h
  | more m' rest ih =>
    rcases known_append h with h | h
    · exact ⟨m', List.mem_cons_self, h⟩
    · obtain ⟨m'', member, h⟩ := ih h
      exact ⟨m'', List.mem_cons_of_mem _ member, h⟩

theorem known_map {g : Moment → Moment} (h : m ∈ (w.map g).known) : ∃ m' ∈ w.known, g m' = m := by
  induction w with
  | done => cases h
  | unknown => cases h
  | more m' rest ih =>
    rcases List.mem_cons.mp h with rfl | h
    · exact ⟨m', List.mem_cons_self, rfl⟩
    · obtain ⟨m'', member, h⟩ := ih h
      exact ⟨m'', List.mem_cons_of_mem _ member, h⟩

theorem known_assertion {kind : Lookahead} {m' : Moment} (h : m ∈ (w.assertion kind m').known) :
    m = m' := by
  cases kind <;> cases w <;> simp_all [assertion, known]

theorem known_first (h : m ∈ w.first.known) : m ∈ w.known := by
  cases w with
  | done => cases h
  | unknown => cases h
  | more m' rest =>
    cases List.mem_singleton.mp h
    exact List.mem_cons_self

end Unfolding

abbrev Ways := Moment → Unfolding

namespace Ways

/-- All of the outcomes. -/
def all (o : Outcomes) : Ways := fun m => .ofList (o m)

def andThen (first second : Ways) : Ways := fun m => (first m).bind second

/-- One more before stopping, or after. -/
def prefer (greedy : Bool) (more : Unfolding) (m : Moment) : Unfolding :=
  if greedy then more.append (.ofList [m]) else .more m more

def times (body : Ways) : Nat → Ways
  | 0 => all fun m => [m]
  | n + 1 => body.andThen (times body n)

def upTo (greedy : Bool) (body : Ways) : Nat → Ways
  | 0 => all fun m => [m]
  | n + 1 => fun m => prefer greedy (body.andThen (upTo greedy body n) m) m

/-- Iterations up to the end `stop` of the range. One that ends where it began stops the loop. -/
def star (stop : Nat) (greedy : Bool) (body : Ways) (m : Moment) : Unfolding :=
  prefer greedy ((body m).bind fun m' =>
    if m.position < m'.position ∧ m'.position ≤ stop then star stop greedy body m'
    else .ofList [m']) m
termination_by stop - m.position

def repeated (range : Span) (least : Nat) (most : Option Nat) (greedy : Bool) (body : Ways) : Ways :=
  (times body least).andThen <|
    match most with
    | none => star range.stop greedy body
    | some most => upTo greedy body (most - least)

def atomic (body : Ways) : Ways := fun m => (body m).first

def repetition (range : Span) (amount : Amount) (preference : Preference) (body : Ways) : Ways :=
  match preference with
  | .greedy => repeated range amount.least amount.most true body
  | .reluctant => repeated range amount.least amount.most false body
  | .possessive => atomic (repeated range amount.least amount.most true body)

def capture (index : Nat) (body : Ways) : Ways := fun m =>
  (body m).map fun m' => m'.store index ⟨m.position, m'.position⟩

def lookahead (kind : Lookahead) (body : Ways) : Ways := fun m => (body m).assertion kind m

variable {w w' : Ways} {o o' : Outcomes}

/-! Ways of which all outcomes are known combine like the outcomes. -/

theorem all_andThen (h : ∀ m, w m = all o m) (h' : ∀ m, w' m = all o' m) (m : Moment) :
    w.andThen w' m = all (fun m => (o m).flatMap o') m := by
  rw [andThen, h, all, Unfolding.ofList_bind fun m' _ => h' m']
  rfl

theorem all_prefer (greedy : Bool) (more : List Moment) (m : Moment) :
    prefer greedy (.ofList more) m = .ofList (Outcomes.prefer greedy more m) := by
  cases greedy with
  | true => exact Unfolding.ofList_append more [m]
  | false => rfl

theorem all_times (h : ∀ m, w m = all o m) (n : Nat) (m : Moment) :
    times w n m = all (Outcomes.times o n) m := by
  induction n generalizing m with
  | zero => rfl
  | succ n ih => exact all_andThen h ih m

theorem all_upTo (h : ∀ m, w m = all o m) (greedy : Bool) (n : Nat) (m : Moment) :
    upTo greedy w n m = all (Outcomes.upTo greedy o n) m := by
  induction n generalizing m with
  | zero => rfl
  | succ n ih =>
    have more := congrArg (prefer greedy · m) (all_andThen h ih m)
    exact more.trans (all_prefer greedy _ m)

theorem all_star (h : ∀ m, w m = all o m) (stop : Nat) (greedy : Bool) (m : Moment) :
    star stop greedy w m = all (Outcomes.star stop greedy o) m := by
  -- The induction is on what is left of the range.
  generalize left : stop - m.position = n
  induction n using Nat.strongRecOn generalizing m with
  | _ n ih =>
    have rest : ∀ m' ∈ o m,
        (if m.position < m'.position ∧ m'.position ≤ stop then star stop greedy w m'
          else .ofList [m']) =
        .ofList (if m.position < m'.position ∧ m'.position ≤ stop then
          Outcomes.star stop greedy o m' else [m']) := by
      intro m' _
      by_cases goes : m.position < m'.position ∧ m'.position ≤ stop
      · have less : stop - m'.position < n := by omega
        rw [if_pos goes, if_pos goes]
        exact ih _ less m' rfl
      · rw [if_neg goes, if_neg goes]
    rw [star, all, Outcomes.star, h, all, Unfolding.ofList_bind rest, all_prefer]

theorem all_repeated (h : ∀ m, w m = all o m) (range : Span) (least : Nat) (most : Option Nat)
    (greedy : Bool) (m : Moment) :
    repeated range least most greedy w m = all (Outcomes.repeated range least most greedy o) m := by
  refine all_andThen (all_times h least) (fun m' => ?_) m
  cases most with
  | none => exact all_star h range.stop greedy m'
  | some most => exact all_upTo h greedy (most - least) m'

theorem all_atomic (h : ∀ m, w m = all o m) (m : Moment) : atomic w m = all (Outcomes.atomic o) m := by
  rw [atomic, h]
  exact Unfolding.ofList_first (o m)

theorem all_repetition (h : ∀ m, w m = all o m) (range : Span) (amount : Amount)
    (preference : Preference) (m : Moment) :
    repetition range amount preference w m =
      all (Outcomes.repetition range amount preference o) m := by
  cases preference with
  | greedy => exact all_repeated h range _ _ _ m
  | reluctant => exact all_repeated h range _ _ _ m
  | possessive => exact all_atomic (all_repeated h range _ _ _) m

theorem all_capture (h : ∀ m, w m = all o m) (index : Nat) (m : Moment) :
    capture index w m = all (Outcomes.capture index o) m := by
  rw [capture, h]
  exact Unfolding.ofList_map _ (o m)

theorem all_lookahead (h : ∀ m, w m = all o m) (kind : Lookahead) (m : Moment) :
    lookahead kind w m = all (Outcomes.lookahead kind o) m := by
  rw [lookahead, h]
  exact Unfolding.ofList_assertion kind m (o m)

end Ways

namespace Pattern

variable {E : Type} [DecidableEq E] (input : Array E) (range : Span) (call : String → Ways)

mutual

/-- The ways in which a pattern can match, if `call` tells those of what it refers to. -/
def ways : Pattern E → Ways
  | empty => .all fun m => [m]
  | any => .all (Outcomes.any range)
  | element e => .all (Outcomes.single input range (· = e))
  | literal elements => .all (Outcomes.literal input range elements)
  | predicate p => .all (Outcomes.single input range p)
  | consumer f => .all (Outcomes.consumer input range f)
  | concat parts => waysInSequence parts
  | alternation branches => alternativeWays branches
  | repetition amount preference body => .repetition range amount preference body.ways
  | capture index _ body => .capture index body.ways
  | reference name => call name
  | lookahead kind body => .lookahead kind body.ways
  | atomic body => .atomic body.ways
  | anchor a => .all (Outcomes.anchor range a)
  | backreference index => .all (Outcomes.backreference input range index)

def waysInSequence : List (Pattern E) → Ways
  | [] => .all fun m => [m]
  | q :: rest => q.ways.andThen (waysInSequence rest)

def alternativeWays : List (Pattern E) → Ways
  | [], _ => .done
  | q :: rest, m => (q.ways m).append (alternativeWays rest m)

end

variable {input range}

mutual

/-- Where references have no outcomes, the ways of a pattern are its outcomes. -/
theorem ways_eq_outcomes (q : Pattern E) (m : Moment) :
    q.ways input range (fun _ _ => .done) m = Ways.all (q.outcomes input range) m := by
  cases q with
  | concat parts => exact waysInSequence_eq parts m
  | alternation branches => exact alternativeWays_eq branches m
  | repetition amount preference body =>
    exact Ways.all_repetition (ways_eq_outcomes body) range amount preference m
  | capture index name body => exact Ways.all_capture (ways_eq_outcomes body) index m
  | lookahead kind body => exact Ways.all_lookahead (ways_eq_outcomes body) kind m
  | atomic body => exact Ways.all_atomic (ways_eq_outcomes body) m
  | _ => rfl

theorem waysInSequence_eq (parts : List (Pattern E)) (m : Moment) :
    waysInSequence input range (fun _ _ => .done) parts m =
      Ways.all (sequence input range parts) m := by
  cases parts with
  | nil => rfl
  | cons q rest => exact Ways.all_andThen (ways_eq_outcomes q) (waysInSequence_eq rest) m

theorem alternativeWays_eq (branches : List (Pattern E)) (m : Moment) :
    alternativeWays input range (fun _ _ => .done) branches m =
      Ways.all (alternatives input range branches) m := by
  cases branches with
  | nil => rfl
  | cons q rest =>
    rw [alternativeWays, ways_eq_outcomes q m, alternativeWays_eq rest m]
    exact Unfolding.ofList_append _ _

end

end Pattern

/-- The ways of a production, with so many references inside each other as the fuel allows. -/
def Grammar.unfold {E : Type} [DecidableEq E] (g : Grammar E) (input : Array E) (range : Span) :
    Nat → String → Ways
  | 0, _ => fun _ => .unknown
  | fuel + 1, name =>
    match g.get? name with
    | none => fun _ => .done
    | some body => body.ways input range (g.unfold input range fuel)

end PatternMachine

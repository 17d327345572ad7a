import PatternMachine.Proofs.Machine.Bounds
import PatternMachine.Proofs.Machine.Cycle
import PatternMachine.Proofs.Machine.Journal
import PatternMachine.Proofs.Machine.Run
import PatternMachine.Proofs.Safety.Construct

/-! Searches with well-typed programs never end in a fault, unless a consume function is to blame. Every
activation of a function stands at a
typed point; the marks that are open in all of them are found, in their order, among the save points,
every open group has a start, and the journal has the open iterations. The same holds of everything
that is saved. -/
namespace PatternMachine

namespace Scope

/-- The save point that a scope waits for. -/
def mark? : Scope → Option Address
  | mark target => some target
  | _ => none

/-- The register of an iteration. -/
def iteration? : Scope → Option PositionRegister
  | iteration register => some register
  | _ => none

end Scope

namespace Context

/-- The save points that are still to be removed. -/
def marks (d : Context) : List Address := d.filterMap Scope.mark?

/-- The iterations that are still to be checked. -/
def iterations (d : Context) : List PositionRegister := d.filterMap Scope.iteration?

end Context

variable {E : Type} {p : Program E} {callees : Callees E} {s : Search E}

/-- The activations, the current one first, with `d` open in the current one and `outer` in those that
called it. -/
structure Frames (p : Program E) (callees : Callees E) (c : Configuration)
    (saved : List Snapshot) (j : Journal) (d : Context) (outer : List Context) : Prop where
  returns : List.Forall₂ (fun a d => p.Typed callees (fun _ _ => False) a.index d)
    c.callStack.items outer
  marks : (Context.marks (d ++ outer.flatten)).Sublist (saved.map (·.resume))
  groups : ∀ (i : Nat) capture, c.registers.captures[i]? = some capture →
    (d ++ outer.flatten).count (.group ⟨i⟩) ≤ capture.opened.length
  current : j.current.map (·.register) = Context.iterations d
  waiting : List.Forall₂ (fun its d => its.map (·.register) = Context.iterations d) j.outer outer
  journal : j.Within c

/-- A configuration at a typed point. -/
def Configuration.Stands (c : Configuration) (p : Program E) (callees : Callees E)
    (saved : List Snapshot) (j : Journal) : Prop :=
  ∃ d outer, p.Typed callees (fun _ _ => False) c.pc.index d ∧ Frames p callees c saved j d outer

/-- What is saved stands at a typed point, and has a journal of its own. -/
def SavedStands (p : Program E) (callees : Callees E) :
    List Snapshot → List (Address × Journal) → Prop
  | [], [] => True
  | sn :: rest, (resume, j) :: journals =>
    sn.resume = resume ∧ sn.position.isSome ∧ (sn.config 0).Stands p callees rest j ∧
      SavedStands p callees rest journals
  | _, _ => False

theorem SavedStands.dropThrough {saved rest : List Snapshot} {journals : List (Address × Journal)}
    {target : Address} (h : SavedStands p callees saved journals)
    (dropped : Snapshot.dropThrough target saved = some rest) :
    SavedStands p callees rest (Chronicle.dropThrough target journals) := by
  induction saved generalizing journals with
  | nil => cases dropped
  | cons sn saved ih =>
    cases journals with
    | nil => exact h.elim
    | cons entry journals =>
      obtain ⟨resume, -, -, h⟩ := h
      by_cases same : sn.resume = target
      · rw [Snapshot.dropThrough, if_pos same] at dropped
        cases dropped
        rw [Chronicle.dropThrough, if_pos (resume.symm.trans same)]
        exact h
      · rw [Snapshot.dropThrough, if_neg same] at dropped
        rw [Chronicle.dropThrough, if_neg fun eq => same (resume.trans eq)]
        exact ih h dropped

/-- The save point of the innermost mark is found, and those of the other marks stay. -/
theorem dropThrough_of_sublist {target : Address} {marks : List Address} {saved : List Snapshot}
    (h : (target :: marks).Sublist (saved.map (·.resume))) :
    ∃ rest, Snapshot.dropThrough target saved = some rest ∧
      marks.Sublist (rest.map (·.resume)) := by
  induction saved with
  | nil => cases h
  | cons sn saved ih =>
    by_cases same : sn.resume = target
    · refine ⟨saved, if_pos same, ?_⟩
      cases h with
      | cons _ h => exact (List.sublist_cons_self _ _).trans h
      | cons_cons _ h => exact h
    · have later : (target :: marks).Sublist (saved.map (·.resume)) := by
        cases h with
        | cons _ h => exact h
        | cons_cons => exact absurd rfl same
      obtain ⟨rest, dropped, kept⟩ := ih later
      exact ⟨rest, by rw [Snapshot.dropThrough, if_neg same]; exact dropped, kept⟩

namespace Frames

variable {c c' : Configuration} {saved : List Snapshot} {j : Journal} {d : Context}
  {outer : List Context} {target : Address} {register : CaptureRegister} {capture : Capture}

/-- Going on without a change of captures, calls and position registers. -/
theorem mono (h : Frames p callees c saved j d outer) (calls : c'.callStack = c.callStack)
    (captures : c'.registers.captures = c.registers.captures)
    (positions : c'.registers.positions = c.registers.positions)
    (le : c.position ≤ c'.position) : Frames p callees c' saved j d outer where
  returns := calls ▸ h.returns
  marks := h.marks
  groups := captures ▸ h.groups
  current := h.current
  waiting := h.waiting
  journal := h.journal.mono positions le

theorem go (h : Frames p callees c saved j d outer) {pc : Address} {position : Nat}
    (le : c.position ≤ position) : Frames p callees { c with pc, position } saved j d outer :=
  h.mono rfl rfl rfl le

theorem save (h : Frames p callees c saved j d outer) (sn : Snapshot) :
    Frames p callees c (sn :: saved) j d outer :=
  { h with marks := h.marks.cons _ }

theorem mark (h : Frames p callees c saved j d outer) {sn : Snapshot}
    (resume : sn.resume = target) :
    Frames p callees c (sn :: saved) j (.mark target :: d) outer where
  returns := h.returns
  marks := by
    have marks := h.marks.cons_cons sn.resume
    subst resume
    exact marks
  groups i capture known := by simpa using h.groups i capture known
  current := h.current
  waiting := h.waiting
  journal := h.journal

/-- An operation that removes one save point finds one. -/
theorem clear (h : Frames p callees c saved j (.mark target :: d) outer) :
    ∃ sn rest, saved = sn :: rest ∧ Frames p callees c rest j d outer := by
  have marks : (target :: Context.marks (d ++ outer.flatten)).Sublist (saved.map (·.resume)) :=
    h.marks
  cases saved with
  | nil => cases marks
  | cons sn rest =>
    have below : (Context.marks (d ++ outer.flatten)).Sublist (rest.map (·.resume)) := by
      cases marks with
      | cons _ marks => exact (List.sublist_cons_self _ _).trans marks
      | cons_cons _ marks => exact marks
    exact ⟨sn, rest, rfl, h.returns, below,
      fun i capture known => by simpa using h.groups i capture known,
      h.current, h.waiting, h.journal⟩

theorem clearThrough (h : Frames p callees c saved j (.mark target :: d) outer) :
    ∃ rest, Snapshot.dropThrough target saved = some rest ∧
      Frames p callees c rest j d outer := by
  obtain ⟨rest, dropped, marks⟩ := dropThrough_of_sublist h.marks
  exact ⟨rest, dropped, h.returns, marks,
    fun i capture known => by simpa using h.groups i capture known,
    h.current, h.waiting, h.journal⟩

theorem movePosition (h : Frames p callees c saved j d outer) {register : PositionRegister}
    (bound : register.index < c.registers.positions.size) :
    Frames p callees
      { c.advance with registers := c.registers.setPosition register c.position } saved
      (j.note c.position (.movePosition register)) (.iteration register :: d) outer where
  returns := h.returns
  marks := h.marks
  groups i capture known := by simpa using h.groups i capture known
  current := congrArg (register :: ·) h.current
  waiting := h.waiting
  journal := h.journal.movePosition bound rfl rfl

/-- The innermost iteration of the activation is the one that is checked. -/
theorem checked {register : PositionRegister}
    (h : Frames p callees c saved j (.iteration register :: d) outer) :
    ∃ start rest, j.current = ⟨register, start⟩ :: rest := by
  have current : j.current.map (·.register) = register :: Context.iterations d := h.current
  cases open_ : j.current with
  | nil => rw [open_] at current; cases current
  | cons it rest =>
    rw [open_] at current
    obtain ⟨rfl, -⟩ := List.cons.inj current
    exact ⟨it.start, rest, rfl⟩

theorem comparePosition {register : PositionRegister} (stuck : BoolRegister)
    (h : Frames p callees c saved j (.iteration register :: d) outer) :
    Frames p callees c saved (j.note c.position (.comparePosition register stuck)) d outer where
  returns := h.returns
  marks := h.marks
  groups i capture known := by simpa using h.groups i capture known
  current := by
    have current : j.current.map (·.register) = register :: Context.iterations d := h.current
    simp only [Journal.note, List.map_tail, current, List.tail_cons]
  waiting := h.waiting
  journal := h.journal.comparePosition register stuck

theorem call (h : Frames p callees c saved j d outer) {a : Address}
    (returns : p.Typed callees (fun _ _ => False) a.index d) :
    Frames p callees { c with pc := target, callStack := c.callStack.push a } saved
      (j.note c.position (.call target)) [] (d :: outer) where
  returns := .cons returns h.returns
  marks := h.marks
  groups := h.groups
  current := rfl
  waiting := .cons h.current h.waiting
  journal := (h.journal.call target).mono rfl (Nat.le_refl _)

theorem ret (h : Frames p callees c saved j [] outer) {a : Address} {callStack : Stack Address}
    (calls : c.callStack.items = a :: callStack.items) :
    Configuration.Stands { c with pc := a, callStack } p callees saved
      (j.note c.position .ret) := by
  obtain ⟨returns, marks, groups, -, waiting, journal⟩ := h
  rw [calls] at returns
  have journal : (j.note c.position .ret).Within { c with pc := a, callStack } :=
    journal.ret.mono rfl (Nat.le_refl _)
  obtain ⟨current, outer', latest⟩ := j
  cases returns with
  | cons back returns =>
    cases waiting with
    | cons first waiting => exact ⟨_, _, back, returns, marks, groups, first, waiting, journal⟩

theorem openCapture (h : Frames p callees c saved j d outer) (start : Nat) :
    Frames p callees { c.advance with registers := c.registers.openCapture register start } saved j
      (.group register :: d) outer where
  returns := h.returns
  marks := h.marks
  groups i capture known := by
    simp only [Registers.openCapture, Registers.modifyCapture] at known
    rw [Array.getElem?_modify] at known
    split at known
    next same =>
      obtain ⟨old, found, rfl⟩ := Option.map_eq_some_iff.mp known
      subst same
      simpa using h.groups _ old found
    next other =>
      have apart : register ≠ ⟨i⟩ := fun eq => other (congrArg Handle.index eq)
      simpa [apart] using h.groups i capture known
  current := h.current
  waiting := h.waiting
  journal := h.journal.mono rfl (Nat.le_refl _)

/-- The latest start of an open group. -/
theorem opened (h : Frames p callees c saved j (.group register :: d) outer)
    (known : c.registers.captures[register.index]? = some capture) :
    ∃ start rest, capture.opened = start :: rest := by
  have count := h.groups register.index capture known
  cases opened : capture.opened with
  | cons start rest => exact ⟨start, rest, rfl⟩
  | nil =>
    rw [opened] at count
    simp at count

theorem closeCapture (h : Frames p callees c saved j (.group register :: d) outer)
    (value : Span) :
    Frames p callees { c.advance with registers := c.registers.closeCapture register value } saved
      j d outer where
  returns := h.returns
  marks := h.marks
  groups i capture known := by
    simp only [Registers.closeCapture, Registers.modifyCapture] at known
    rw [Array.getElem?_modify] at known
    split at known
    next same =>
      obtain ⟨old, found, rfl⟩ := Option.map_eq_some_iff.mp known
      subst same
      have count := h.groups _ old found
      simp only [List.cons_append, List.count_cons_self] at count
      simp only [List.length_tail]
      omega
    next other =>
      have apart : register ≠ ⟨i⟩ := fun eq => other (congrArg Handle.index eq)
      simpa [apart] using h.groups i capture known
  current := h.current
  waiting := h.waiting
  journal := h.journal.mono rfl (Nat.le_refl _)

end Frames

/-! ### Moves -/

/-- What keeps a search going. -/
structure Thread.Good (t : Thread) (w : Chronicle) (s : Search E) (callees : Callees E) :
    Prop where
  within : t.Within s
  stands : t.config.Stands s.program callees t.savePoints w.now
  saved : SavedStands s.program callees t.savePoints w.saved

/-- The effect can be obeyed and leads to a typed point, with `j'` as the journal that goes on. Only
consume functions that leave their ranges lead to faults. -/
def Effect.Safe (s : Search E) (callees : Callees E) (c : Configuration)
    (saved : List Snapshot) (j j' : Journal) : Effect → Prop
  | .fault _ => ¬callees.Reliable
  | .go pc position => Configuration.Stands { c with pc, position } s.program callees saved j'
  | .say _ _ => c.advance.Stands s.program callees saved j
  | .change c' _ => c'.Stands s.program callees saved j'
  | .save resume position => position.isSome ∧
    ((c.save resume position).config 0).Stands s.program callees saved j ∧
      c.advance.Stands s.program callees (c.save resume position :: saved) j
  | .drop => ∃ sn rest, saved = sn :: rest ∧ c.advance.Stands s.program callees rest j
  | .dropThrough target => ∃ rest, Snapshot.dropThrough target saved = some rest ∧
      c.advance.Stands s.program callees rest j
  | .backtrack | .accept | .abort _ => True

namespace Search

variable {c : Configuration} {saved : List Snapshot} {j j' : Journal}

theorem obey_safe {t : Thread} {w : Chronicle} {e : Effect}
    (safe : e.Safe s callees t.config t.savePoints w.now j')
    (saved : SavedStands s.program callees t.savePoints w.saved) :
    (t.obey e = .stuck → ¬callees.Reliable) ∧ ∀ t', t.obey e = .next t' →
      t'.config.Stands s.program callees t'.savePoints (w.obey j' e).now ∧
        SavedStands s.program callees t'.savePoints (w.obey j' e).saved := by
  cases e with
  | fault f => exact ⟨fun _ => safe, nofun⟩
  | go pc position => exact ⟨by simp [Thread.obey], fun t' eq => by cases eq; exact ⟨safe, saved⟩⟩
  | say level text => exact ⟨by simp [Thread.obey], fun t' eq => by cases eq; exact ⟨safe, saved⟩⟩
  | change c u => exact ⟨by simp [Thread.obey], fun t' eq => by cases eq; exact ⟨safe, saved⟩⟩
  | save resume position =>
    refine ⟨by simp [Thread.obey], fun t' eq => ?_⟩
    cases eq
    exact ⟨safe.2.2, rfl, safe.1, safe.2.1, saved⟩
  | drop =>
    obtain ⟨sn, rest, eq, stands⟩ := safe
    have obeyed : t.obey .drop = .next ⟨t.config.advance, rest⟩ := by simp [Thread.obey, eq]
    rw [obeyed]
    refine ⟨by simp, fun t' eq' => ?_⟩
    cases eq'
    obtain ⟨now, journals⟩ := w
    rw [eq] at saved
    cases journals with
    | nil => exact saved.elim
    | cons entry journals => exact ⟨stands, saved.2.2.2⟩
  | dropThrough target =>
    obtain ⟨rest, dropped, stands⟩ := safe
    have obeyed : t.obey (.dropThrough target) = .next ⟨t.config.advance, rest⟩ := by
      simp [Thread.obey, dropped]
    rw [obeyed]
    exact ⟨by simp, fun t' eq => by cases eq; exact ⟨stands, saved.dropThrough dropped⟩⟩
  | backtrack =>
    simp only [Thread.obey]
    cases eq : t.savePoints with
    | nil => exact ⟨by simp [Move.fall], fun t' eq => by cases eq⟩
    | cons sn rest =>
      refine ⟨by simp [Move.fall], fun t' eq' => ?_⟩
      cases eq'
      obtain ⟨now, journals⟩ := w
      rw [eq] at saved
      cases journals with
      | nil => exact saved.elim
      | cons entry journals =>
        obtain ⟨-, position, stands, saved⟩ := saved
        obtain ⟨q, position⟩ := Option.isSome_iff_exists.mp position
        have same : sn.config t.config.position = sn.config 0 := by
          simp only [Snapshot.config, position, Option.getD_some]
        rw [same]
        exact ⟨stands, saved⟩
  | accept => exact ⟨by simp [Thread.obey], fun t' eq => by cases eq⟩
  | abort reason => exact ⟨by simp [Thread.obey], fun t' eq => by cases eq⟩

theorem string?_ok {comment : Option StringRegister}
    (bound : ∀ r, comment = some r → r.index < s.program.strings.size) :
    ∃ text, s.string? comment = .ok text := by
  cases comment with
  | none => exact ⟨none, rfl⟩
  | some r =>
    have inside := bound r rfl
    exact ⟨some s.program.strings[r.index], by simp only [string?, Array.getElem?_eq_getElem inside]⟩

variable {d : Context} {outer : List Context}

theorem consumption_safe {holds : Bool}
    (advance : Configuration.Stands { c with pc := c.pc.next, position := c.position + 1 }
      s.program callees saved j') : (consumption c holds).Safe s callees c saved j j' := by
  cases holds with
  | true => exact advance
  | false => trivial

theorem assignment_safe {register : BoolRegister} {value : Bool} (within : c.Within s)
    (bound : register.index < s.program.registers.bools)
    (advance : Configuration.Stands
      { c.advance with registers := c.registers.setBool register value }
      s.program callees saved j') :
    (assignment c register value).Safe s callees c saved j j' := by
  obtain ⟨old, known⟩ := getElem?_of_lt bound within.registers.bools
  simp only [assignment, known]
  exact advance

theorem acceptance_safe : (s.acceptance c).Safe s callees c saved j j' := by
  unfold acceptance
  split <;> trivial

/-- The rule of an operation keeps its effect safe. -/
theorem effect_safe [DecidableEq E] {op : Operation} (valid : s.range.stop ≤ s.input.size)
    (typed : op.Typed s.program callees (s.program.Typed callees fun _ _ => False) c.pc.index d)
    (entries : ∀ a, callees.functions a → s.program.Typed callees (fun _ _ => False) a.index [])
    (within : c.Within s) (frames : Frames s.program callees c saved j d outer) :
    (s.effect c op).Safe s callees c saved j (j.note c.position op) := by
  have stay : c.position ≤ c.position := Nat.le_refl _
  cases op with
  | nop comment =>
    obtain ⟨bound, next⟩ := typed
    have advance : c.advance.Stands s.program callees saved j := ⟨d, outer, next, frames.go stay⟩
    obtain ⟨text, eq⟩ := string?_ok bound
    simp only [effect, eq]
    split
    · cases text with
      | none => exact advance
      | some text => exact advance
    · exact advance
  | branch target => exact ⟨d, outer, typed, frames.go stay⟩
  | condBranch condition target =>
    obtain ⟨bound, there, next⟩ := typed
    obtain ⟨value, known⟩ := getElem?_of_lt bound within.registers.bools
    simp only [effect, known]
    cases value with
    | true => exact ⟨d, outer, there, frames.go stay⟩
    | false => exact ⟨d, outer, next, frames.go stay⟩
  | save target =>
    obtain ⟨there, next⟩ := typed
    refine ⟨rfl, ⟨d, outer, there, frames.go stay⟩, ?_⟩
    have frames : Frames s.program callees c.advance saved j d outer := frames.go stay
    rcases next with next | next
    · exact ⟨d, outer, next, frames.save _⟩
    · exact ⟨_, outer, next, frames.mark rfl⟩
  | clear =>
    obtain ⟨target, d', rfl, next⟩ := typed
    obtain ⟨sn, rest, eq, frames⟩ := frames.clear
    exact ⟨sn, rest, eq, d', outer, next, frames.go stay⟩
  | clearThrough target =>
    obtain ⟨d', rfl, next⟩ := typed
    obtain ⟨rest, dropped, frames⟩ := frames.clearThrough
    exact ⟨rest, dropped, d', outer, next, frames.go stay⟩
  | fail => trivial
  | call target =>
    obtain ⟨entry, next⟩ := typed
    exact ⟨[], d :: outer, entries target entry, frames.call next⟩
  | ret =>
    cases typed
    simp only [effect]
    cases calls : c.callStack.items with
    | nil => rw [Stack.pop?_of_items_nil calls]; exact acceptance_safe
    | cons a rest =>
      rw [Stack.pop?_of_items_cons calls]
      exact frames.ret calls
  | accept => exact acceptance_safe
  | consume distance =>
    simp only [effect, remaining_ok within.inside]
    split
    · exact ⟨d, outer, typed, frames.go (Nat.le_add_right _ _)⟩
    · trivial
  | consumeBy function =>
    obtain ⟨f, known, allowed, next⟩ := typed
    simp only [effect, known]
    split
    · trivial
    next position eq =>
      by_cases inside : c.position ≤ position ∧ position ≤ s.range.stop
      · rw [if_pos inside]
        exact ⟨d, outer, next, frames.go inside.1⟩
      · rw [if_neg inside]
        intro reliable
        exact inside (reliable f allowed s.input ⟨c.position, s.range.stop⟩ position
          within.inside.2 valid eq)
  | matchElement element =>
    obtain ⟨e, known⟩ := getElem?_of_lt typed.1 rfl
    simp only [effect, known]
    exact consumption_safe ⟨d, outer, typed.2, frames.go (Nat.le_succ _)⟩
  | matchPredicate predicate =>
    obtain ⟨f, known⟩ := getElem?_of_lt typed.1 rfl
    simp only [effect, known]
    exact consumption_safe ⟨d, outer, typed.2, frames.go (Nat.le_succ _)⟩
  | movePosition register =>
    obtain ⟨old, known⟩ := getElem?_of_lt typed.1 within.registers.positions
    simp only [effect, known]
    exact ⟨_, outer, typed.2, frames.movePosition (within.registers.positions ▸ typed.1)⟩
  | comparePosition register condition =>
    obtain ⟨bound, bound', d', rfl, -, next⟩ := typed
    obtain ⟨old, known⟩ := getElem?_of_lt bound within.registers.positions
    simp only [effect, known]
    refine assignment_safe within bound' ⟨d', outer, next, ?_⟩
    exact (frames.comparePosition condition).mono rfl rfl rfl stay
  | beginCapture register =>
    obtain ⟨old, known⟩ := getElem?_of_lt typed.1 within.registers.captures
    simp only [effect, known]
    exact ⟨_, outer, typed.2, frames.openCapture c.position⟩
  | endCapture register =>
    obtain ⟨bound, d', rfl, next⟩ := typed
    obtain ⟨⟨opened, value⟩, known⟩ := getElem?_of_lt bound within.registers.captures
    obtain ⟨start, rest, eq⟩ := frames.opened known
    cases eq
    simp only [effect, known]
    exact ⟨d', outer, next, frames.closeCapture _⟩
  | backreference register =>
    obtain ⟨⟨opened, value⟩, known⟩ := getElem?_of_lt typed.1 within.registers.captures
    simp only [effect, known]
    cases value with
    | none => trivial
    | some captured =>
      obtain ⟨-, ordered, le⟩ := within.registers.values _ _ captured known rfl
      obtain ⟨again, eq⟩ : ∃ again, s.repeats c.position captured = .ok again :=
        ⟨_, repeats_eq within valid ordered le⟩
      simp only [eq]
      cases again with
      | true => exact ⟨d, outer, typed.2, frames.go (Nat.le_add_right _ _)⟩
      | false => trivial
  | _ => exact typed.elim

/-- A search that is going well goes on so. -/
theorem move_good [DecidableEq E] {t : Thread} {w : Chronicle} (valid : s.range.stop ≤ s.input.size)
    (entries : ∀ a, callees.functions a → s.program.Typed callees (fun _ _ => False) a.index [])
    (good : t.Good w s callees) :
    (s.move t = .stuck → ¬callees.Reliable) ∧
      ∀ t', s.move t = .next t' → t'.Good (s.chronicle t.config w) s callees := by
  obtain ⟨within, ⟨d, outer, typed, frames⟩, saved⟩ := good
  obtain ⟨op, known, rule⟩ := typed.rule
  have moved := move_of_operation within.config.inside known
  have safe := effect_safe valid rule entries within.config frames
  obtain ⟨goes, stands⟩ := obey_safe safe saved
  have chronicle : s.chronicle t.config w =
      w.obey (w.now.note t.config.position op) (s.effect t.config op) := by
    unfold Search.chronicle
    rw [known]
  rw [moved, chronicle]
  refine ⟨goes, fun t' eq => ?_⟩
  obtain ⟨stands, saved⟩ := stands t' eq
  exact ⟨within.move (moved.trans eq), stands, saved⟩

theorem start_good (valid : s.range.start ≤ s.range.stop)
    (typed : s.program.WellTyped callees) :
    Thread.Good ⟨s.start.config, []⟩ .empty s callees where
  within := s.start_within valid
  stands := by
    refine ⟨[], [], typed.start, .nil, .slnil, fun i capture _ => ?_, rfl, .nil, .empty _⟩
    simp
  saved := trivial

/-- A search with a well-typed program does not end in a fault. -/
theorem runFor_welltyped [DecidableEq E] (typed : s.program.WellTyped callees)
    (reliable : callees.Reliable)
    (start : s.range.start ≤ s.range.stop) (stop : s.range.stop ≤ s.input.size) (n : Nat) :
    ∃ m, s.runFor n s.start = .next m := by
  have step : ∀ t : Thread, (∃ w, t.Good w s callees) →
      s.move t ≠ .stuck ∧ ∀ t', s.move t = .next t' → ∃ w, t'.Good w s callees := by
    rintro t ⟨w, good⟩
    obtain ⟨goes, next⟩ := move_good stop typed.functions good
    exact ⟨fun stuck => goes stuck reliable, fun t' eq => ⟨_, next t' eq⟩⟩
  have good : ∃ w, s.copyingStart.thread.Good w s callees := ⟨.empty, start_good start typed⟩
  obtain ⟨r, ran⟩ := copyingRunFor_next step n good
  obtain ⟨m, ran, -⟩ := (Tracks.start s).runFor_next ran
  exact ⟨m, ran⟩

end Search

/-- The compiled forms of patterns and grammars whose consume functions stay within their ranges. -/
def Program.Compiled [DecidableEq E] (p : Program E) : Prop :=
  ∃ limit, (∃ q : Pattern E, q.Consumers ConsumeFunction.Bounded ∧ q.compile limit = .ok p) ∨
    ∃ g : Grammar E, (∀ q ∈ g.productions, q.2.Consumers ConsumeFunction.Bounded) ∧
      g.compile limit = .ok p

theorem Program.Compiled.wellTyped [DecidableEq E] (h : p.Compiled) :
    ∃ callees, p.WellTyped callees ∧ callees.Reliable := by
  obtain ⟨limit, ⟨q, bounded, compiled⟩ | ⟨g, bounded, compiled⟩⟩ := h
  · obtain ⟨hi, placed⟩ := Pattern.compile_placed compiled
    exact ⟨_, placed.wellTyped bounded Pattern.startOfInput_bounded, fun _ => id⟩
  · obtain ⟨entry, placed, -⟩ := Grammar.compile_placed compiled
    exact ⟨_, placed.wellTyped bounded Pattern.startOfInput_bounded, fun _ => id⟩

/-- However long a search with a compiled program runs, its next cycle does not end in a fault. -/
theorem compiled_never_faults [DecidableEq E] (compiled : p.Compiled) {input : Array E}
    {range : Span} {settings : Settings} (prepared : Search.prepare p input range settings = .ok s)
    (n : Nat) : ∃ m, s.runFor n s.start = .next m ∧
      (m.status = .inProgress → ∃ m', s.cycle m = .next m') := by
  obtain ⟨rfl, start, stop⟩ := Search.prepare_spec prepared
  obtain ⟨callees, typed, reliable⟩ := compiled.wellTyped
  have runs := Search.runFor_welltyped (s := ⟨p, input, range, settings⟩) typed reliable start stop
  obtain ⟨m, ran⟩ := runs n
  refine ⟨m, ran, fun live => ?_⟩
  obtain ⟨m', next⟩ := runs (n + 1)
  rw [Search.runFor_add ran, Search.runFor_one live] at next
  exact ⟨m', next⟩

/-- A left-recursive grammar, which runs until a limit stops it. -/
theorem compiled_never_faults_leftRecursive :
    ∃ (p : Program Nat) (s : Search Nat), p.Compiled ∧
      Search.prepare p #[0, 1] ⟨0, 2⟩ {} = .ok s ∧
      ∀ n, ∃ m, s.runFor n s.start = .next m ∧
        (m.status = .inProgress → ∃ m', s.cycle m = .next m') := by
  let body : Pattern Nat := .alternation [.reference "a", .capture 0 none (.element 0)]
  let g : Grammar Nat := ⟨"a", [("a", .atomic body)]⟩
  have bounded : ∀ q ∈ g.productions, q.2.Consumers ConsumeFunction.Bounded := by
    intro q member
    cases List.mem_singleton.mp member
    exact ⟨trivial, trivial, trivial⟩
  have accepted : (g.compile 100).toOption.isSome = true := by decide +kernel
  cases compiled : g.compile 100 with
  | error e => rw [compiled] at accepted; cases accepted
  | ok p =>
    have prepared : Search.prepare p #[0, 1] ⟨0, 2⟩ {} = .ok ⟨p, #[0, 1], ⟨0, 2⟩, {}⟩ := rfl
    have holds : p.Compiled := ⟨100, .inr ⟨g, bounded, compiled⟩⟩
    exact ⟨p, _, holds, prepared, compiled_never_faults holds prepared⟩

end PatternMachine

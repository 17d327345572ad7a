import PatternMachine.Proofs.Except
import PatternMachine.Proofs.Machine.Thread

/-! Positions never leave the range and never go back on one path, and every capture lies between the
start of the range and the position. This holds for all programs, whatever their instructions. -/
namespace PatternMachine

/-- The registers have their sizes, and captures lie between two positions. -/
structure Registers.Within (r : Registers) (counts : RegisterCounts) (low high : Nat) : Prop where
  bools : r.bools.size = counts.bools
  positions : r.positions.size = counts.positions
  captures : r.captures.size = counts.captures
  opened : ∀ (i : Nat) capture, r.captures[i]? = some capture →
    ∀ start ∈ capture.opened, low ≤ start ∧ start ≤ high
  values : ∀ (i : Nat) capture value, r.captures[i]? = some capture → capture.value = some value →
    low ≤ value.start ∧ value.start ≤ value.stop ∧ value.stop ≤ high

namespace Registers.Within

variable {r : Registers} {counts : RegisterCounts} {low high : Nat}

theorem mono (h : r.Within counts low high) {higher : Nat} (le : high ≤ higher) :
    r.Within counts low higher where
  bools := h.bools
  positions := h.positions
  captures := h.captures
  opened i capture known start member :=
    ⟨(h.opened i capture known start member).1,
      Nat.le_trans (h.opened i capture known start member).2 le⟩
  values i capture value known eq :=
    ⟨(h.values i capture value known eq).1, (h.values i capture value known eq).2.1,
      Nat.le_trans (h.values i capture value known eq).2.2 le⟩

theorem setBool (h : r.Within counts low high) (register : BoolRegister) (value : Bool) :
    (r.setBool register value).Within counts low high :=
  { h with bools := by rw [Registers.setBool, Array.size_setIfInBounds, h.bools] }

theorem setPosition (h : r.Within counts low high) (register : PositionRegister) (value : Nat) :
    (r.setPosition register value).Within counts low high :=
  { h with positions := by rw [Registers.setPosition, Array.size_setIfInBounds, h.positions] }

/-- Changing a capture register within the bounds. -/
theorem modifyCapture (h : r.Within counts low high) (register : CaptureRegister)
    (f : Capture → Capture)
    (opened : ∀ capture, r.captures[register.index]? = some capture →
      ∀ start ∈ (f capture).opened, low ≤ start ∧ start ≤ high)
    (values : ∀ capture value, r.captures[register.index]? = some capture →
      (f capture).value = some value →
      low ≤ value.start ∧ value.start ≤ value.stop ∧ value.stop ≤ high) :
    (r.modifyCapture register f).Within counts low high where
  bools := h.bools
  positions := h.positions
  captures := by rw [Registers.modifyCapture, Array.size_modify, h.captures]
  opened i capture known := by
    rw [Registers.modifyCapture, Array.getElem?_modify] at known
    split at known
    next same =>
      obtain ⟨old, found, rfl⟩ := Option.map_eq_some_iff.mp known
      exact opened old (same ▸ found)
    · exact h.opened i capture known
  values i capture value known := by
    rw [Registers.modifyCapture, Array.getElem?_modify] at known
    split at known
    next same =>
      obtain ⟨old, found, rfl⟩ := Option.map_eq_some_iff.mp known
      exact values old value (same ▸ found)
    · exact h.values i capture value known

theorem openCapture (h : r.Within counts low high) (register : CaptureRegister) (le : low ≤ high) :
    (r.openCapture register high).Within counts low high := by
  refine h.modifyCapture register _ (fun capture known start member => ?_)
    (fun capture value known eq => h.values _ capture value known eq)
  rcases List.mem_cons.mp member with rfl | member
  · exact ⟨le, Nat.le_refl _⟩
  · exact h.opened _ capture known start member

theorem closeCapture (h : r.Within counts low high) (register : CaptureRegister) {start : Nat}
    (above : low ≤ start) (below : start ≤ high) :
    (r.closeCapture register ⟨start, high⟩).Within counts low high := by
  refine h.modifyCapture register _ (fun capture known start member => ?_)
    (fun capture value _ eq => ?_)
  · exact h.opened _ capture known start (List.mem_of_mem_tail member)
  · cases eq
    exact ⟨above, below, Nat.le_refl _⟩

theorem initial (counts : RegisterCounts) (sentinel low high : Nat) :
    (Registers.initial counts sentinel).Within counts low high := by
  refine ⟨Array.size_replicate, Array.size_replicate, Array.size_replicate, ?_, ?_⟩
  · intro i capture known
    obtain ⟨-, rfl⟩ : _ ∧ (⟨[], none⟩ : Capture) = capture := by
      simpa [Registers.initial, Array.getElem?_replicate] using known
    simp
  · intro i capture value known eq
    obtain ⟨-, rfl⟩ : _ ∧ (⟨[], none⟩ : Capture) = capture := by
      simpa [Registers.initial, Array.getElem?_replicate] using known
    cases eq

end Registers.Within

/-! ### Threads -/

variable {E : Type} {s : Search E} {c : Configuration}

structure Configuration.Within (c : Configuration) (s : Search E) : Prop where
  inside : s.Inside c.position
  registers : c.registers.Within s.program.registers s.range.start c.position

/-- What is saved was within the bounds at positions that do not go back. -/
def SavedWithin (s : Search E) : List Snapshot → Nat → Prop
  | [], _ => True
  | sn :: rest, high => ∃ q, q ≤ high ∧ (sn.position = none ∨ sn.position = some q) ∧
      (sn.config q).Within s ∧ SavedWithin s rest q

theorem SavedWithin.mono {saved : List Snapshot} {high higher : Nat} (h : SavedWithin s saved high)
    (le : high ≤ higher) : SavedWithin s saved higher := by
  cases saved with
  | nil => trivial
  | cons sn rest =>
    obtain ⟨q, below, position, within, rest⟩ := h
    exact ⟨q, Nat.le_trans below le, position, within, rest⟩

theorem SavedWithin.dropThrough {saved rest : List Snapshot} {target : Address} {high : Nat}
    (h : SavedWithin s saved high) (dropped : Snapshot.dropThrough target saved = some rest) :
    SavedWithin s rest high := by
  induction saved generalizing high with
  | nil => cases dropped
  | cons sn saved ih =>
    obtain ⟨q, below, -, -, h⟩ := h
    by_cases same : sn.resume = target
    · rw [Snapshot.dropThrough, if_pos same] at dropped
      cases dropped
      exact h.mono below
    · rw [Snapshot.dropThrough, if_neg same] at dropped
      exact (ih h dropped).mono below

structure Thread.Within (t : Thread) (s : Search E) : Prop where
  config : t.config.Within s
  saved : SavedWithin s t.savePoints t.config.position

theorem SavedWithin.resume {sn : Snapshot} {rest : List Snapshot} {position : Nat}
    (h : SavedWithin s (sn :: rest) position) (stop : position ≤ s.range.stop) :
    Thread.Within ⟨sn.config position, rest⟩ s := by
  obtain ⟨q, below, saved, within, rest⟩ := h
  rcases saved with none | some
  · have at_ : (sn.config position).position = position := by simp [Snapshot.config, none]
    have at_q : (sn.config q).position = q := by simp [Snapshot.config, none]
    have inside := at_q ▸ within.inside
    refine ⟨⟨?_, ?_⟩, ?_⟩
    all_goals rw [at_]
    · exact ⟨Nat.le_trans inside.1 below, stop⟩
    · exact (at_q ▸ within.registers).mono below
    · exact rest.mono below
  · have at_ : (sn.config position).position = q := by simp [Snapshot.config, some]
    have at_q : (sn.config q).position = q := by simp [Snapshot.config, some]
    refine ⟨⟨?_, ?_⟩, ?_⟩
    all_goals rw [at_]
    · exact at_q ▸ within.inside
    · exact at_q ▸ within.registers
    · exact rest

/-- What an effect may ask of a configuration within the bounds. -/
def Effect.Lawful (s : Search E) (c : Configuration) : Effect → Prop
  | .go _ position => c.position ≤ position ∧ position ≤ s.range.stop
  | .change c' _ => c'.position = c.position ∧
      c'.registers.Within s.program.registers s.range.start c.position
  | .save _ position => position = none ∨ position = some c.position
  | _ => True

namespace Search

theorem load_lt {position : Nat} {e : E} (h : s.load position = some e) :
    position < s.range.stop := by
  unfold load at h
  split at h
  · assumption
  · cases h

theorem remaining_eq {position left : Nat} (h : s.remaining position = .ok left) :
    position + left = s.range.stop := by
  unfold remaining at h
  split at h <;> cases h
  omega

theorem remaining_ok (inside : s.Inside c.position) :
    s.remaining c.position = .ok (s.range.stop - c.position) := if_pos inside.2

/-- A capture within the bounds can be compared with what follows. -/
theorem repeats_eq [DecidableEq E] (within : c.Within s) (valid : s.range.stop ≤ s.input.size)
    {captured : Span} (ordered : captured.start ≤ captured.stop) (le : captured.stop ≤ c.position) :
    s.repeats c.position captured =
      .ok (decide (c.position + captured.length ≤ s.range.stop ∧
        s.input.extract captured.start captured.stop =
          s.input.extract c.position (c.position + captured.length))) := by
  have stop := within.inside.2
  unfold repeats
  rw [remaining_ok within.inside, ok_bind]
  by_cases enough : captured.length ≤ s.range.stop - c.position
  · have earlier : s.slice captured = .ok (s.input.extract captured.start captured.stop) :=
      if_pos ⟨ordered, by omega⟩
    have current : s.slice ⟨c.position, c.position + captured.length⟩ =
        .ok (s.input.extract c.position (c.position + captured.length)) :=
      if_pos ⟨Nat.le_add_right _ _, by simp only; omega⟩
    have fits : c.position + captured.length ≤ s.range.stop := by omega
    rw [if_pos enough, earlier, current, ok_bind, ok_bind]
    simp only [fits, true_and]
    rfl
  · have beyond : ¬c.position + captured.length ≤ s.range.stop := by omega
    rw [if_neg enough]
    simp only [beyond, false_and, decide_false]
    rfl

theorem getElem?_of_lt {α : Type} {xs : Array α} {i n : Nat} (bound : i < n) (size : xs.size = n) :
    ∃ x, xs[i]? = some x := ⟨_, Array.getElem?_eq_getElem (size ▸ bound)⟩

theorem repeats_le [DecidableEq E] {position : Nat} {captured : Span}
    (h : s.repeats position captured = .ok true) :
    position + captured.length ≤ s.range.stop := by
  obtain ⟨left, eq, h⟩ := bind_eq_ok.mp h
  have := remaining_eq eq
  split at h
  · omega
  · cases h

theorem consumption_lawful {holds : Bool}
    (some : holds = true → c.position < s.range.stop) : (consumption c holds).Lawful s c := by
  cases holds with
  | true => exact ⟨Nat.le_succ _, some rfl⟩
  | false => trivial

theorem assignment_lawful (within : c.Within s) {register : BoolRegister} {value : Bool} :
    (assignment c register value).Lawful s c := by
  unfold assignment
  split
  · trivial
  · exact ⟨rfl, within.registers.setBool _ _⟩

theorem acceptance_lawful : (s.acceptance c).Lawful s c := by
  unfold acceptance
  split <;> trivial

theorem effect_lawful [DecidableEq E] (within : c.Within s) (op : Operation) :
    (s.effect c op).Lawful s c := by
  have stay : c.position ≤ c.position ∧ c.position ≤ s.range.stop :=
    ⟨Nat.le_refl _, within.inside.2⟩
  cases op with
  | invalid => trivial
  | nop comment =>
    simp only [effect]
    split
    · split
      · trivial
      · exact stay
      · trivial
    · exact stay
  | branch target => exact stay
  | condBranch condition target =>
    simp only [effect]
    split
    · trivial
    · exact stay
    · exact stay
  | save target => exact .inr rfl
  | saveAddress target => exact .inl rfl
  | clear | clearThrough target | restore | fail => trivial
  | call target => exact ⟨rfl, within.registers⟩
  | ret =>
    simp only [effect]
    split
    · exact acceptance_lawful
    · exact ⟨rfl, within.registers⟩
  | accept => exact acceptance_lawful
  | abort reason =>
    simp only [effect]
    split <;> trivial
  | consume distance =>
    simp only [effect]
    split
    · trivial
    next left eq =>
      have := remaining_eq eq
      split
      · exact ⟨Nat.le_add_right _ _, by omega⟩
      · trivial
  | consumeBy function =>
    simp only [effect]
    split
    · trivial
    · split
      · trivial
      · split
        · assumption
        · trivial
  | matchElement element =>
    simp only [effect]
    split
    · trivial
    · exact consumption_lawful fun holds => load_lt (of_decide_eq_true holds)
  | matchPredicate predicate =>
    simp only [effect]
    split
    · trivial
    · refine consumption_lawful fun holds => ?_
      cases loaded : s.load c.position with
      | none => rw [loaded] at holds; cases holds
      | some e => exact load_lt loaded
  | assertion element condition =>
    simp only [effect]
    split
    · trivial
    · exact assignment_lawful within
  | movePosition register =>
    simp only [effect]
    split
    · trivial
    · exact ⟨rfl, within.registers.setPosition _ _⟩
  | comparePosition register condition =>
    simp only [effect]
    split
    · trivial
    · exact assignment_lawful within
  | beginCapture register =>
    simp only [effect]
    split
    · trivial
    · exact ⟨rfl, within.registers.openCapture _ within.inside.1⟩
  | endCapture register =>
    simp only [effect]
    split
    · trivial
    · trivial
    next start opened old known =>
      obtain ⟨above, below⟩ := within.registers.opened _ _ known start List.mem_cons_self
      exact ⟨rfl, within.registers.closeCapture _ above below⟩
  | backreference register =>
    simp only [effect]
    split
    · trivial
    · trivial
    · split
      · trivial
      next again => exact ⟨Nat.le_add_right _ _, repeats_le again⟩
      · trivial
  | print message =>
    simp only [effect]
    split <;> trivial

end Search

/-- No move leaves the bounds. -/
theorem Thread.Within.move [DecidableEq E] {t t' : Thread} (h : t.Within s)
    (moved : s.move t = .next t') : t'.Within s := by
  obtain ⟨inside, op, -, moved⟩ := Search.move_next moved
  have lawful := Search.effect_lawful h.config op
  generalize s.effect t.config op = e at moved lawful
  have stay : t.config.advance.Within s := ⟨inside, h.config.registers⟩
  cases e with
  | fault f => cases moved
  | accept => cases moved
  | abort reason => cases moved
  | go pc position =>
    cases moved
    obtain ⟨above, below⟩ := lawful
    exact ⟨⟨⟨Nat.le_trans inside.1 above, below⟩, h.config.registers.mono above⟩,
      h.saved.mono above⟩
  | say level text => cases moved; exact ⟨stay, h.saved⟩
  | change c u =>
    cases moved
    obtain ⟨same, registers⟩ := lawful
    refine ⟨⟨?_, ?_⟩, ?_⟩
    all_goals simp only [same]
    · exact inside
    · exact registers
    · exact h.saved
  | save resume position =>
    cases moved
    have here : position.getD t.config.position = t.config.position := by
      rcases lawful with rfl | rfl <;> rfl
    have copy : ((t.config.save resume position).config t.config.position).Within s := by
      refine ⟨?_, ?_⟩
      all_goals simp only [Configuration.save, Snapshot.config, here]
      · exact inside
      · exact h.config.registers
    exact ⟨stay, t.config.position, Nat.le_refl _, lawful, copy, h.saved⟩
  | drop =>
    simp only [Thread.obey] at moved
    split at moved
    · cases moved
    next saved =>
      cases moved
      have below := h.saved
      rw [saved] at below
      obtain ⟨q, le, -, -, below⟩ := below
      exact ⟨stay, below.mono le⟩
  | dropThrough target =>
    simp only [Thread.obey] at moved
    split at moved
    · cases moved
    next rest dropped => cases moved; exact ⟨stay, h.saved.dropThrough dropped⟩
  | backtrack =>
    simp only [Thread.obey, Move.fall] at moved
    split at moved
    · cases moved
    next sn rest saved =>
      cases moved
      have below := h.saved
      rw [saved] at below
      exact below.resume inside.2

/-- A thread that has checked its iteration, by the start that the register of its loop holds. -/
def Thread.checked (t : Thread) (stuck : BoolRegister) (exit : Address) (start : Nat) : Thread :=
  { t with config := { t.config with
    pc := if start = t.config.position then exit else ⟨t.config.pc.index + 2⟩
    registers := t.config.registers.setBool stuck (start = t.config.position) } }

/-- A check takes two moves: what is compared is noted in a bool, then an iteration that ends where it
has started is left. -/
theorem Thread.Within.check [DecidableEq E] {t : Thread} {register : PositionRegister}
    {stuck : BoolRegister} {exit : Address} {start : Nat} (h : t.Within s)
    (compare : s.program.operation? t.config.pc.index = some (.comparePosition register stuck))
    (leave : s.program.operation? (t.config.pc.index + 1) = some (.condBranch stuck exit))
    (bound : stuck.index < s.program.registers.bools)
    (started : t.config.registers.positions[register.index]? = some start) :
    ∃ t', s.move t = .next t' ∧ s.move t' = .next (t.checked stuck exit start) := by
  have inside := h.config.inside
  have size := h.config.registers.bools
  obtain ⟨old, found⟩ := Search.getElem?_of_lt bound size
  let t' : Thread := { t with config := { t.config.advance with
    registers := t.config.registers.setBool stuck (start = t.config.position) } }
  have first : s.move t = .next t' := by
    rw [Search.move_of_operation inside compare]
    simp only [Search.effect, started, Search.assignment, found]
    rfl
  have noted : t'.config.registers.bools[stuck.index]? =
      some (decide (start = t.config.position)) :=
    Array.getElem?_setIfInBounds_self_of_lt (size ▸ bound)
  have second : s.move t' = t'.obey (s.effect t'.config (.condBranch stuck exit)) :=
    Search.move_of_operation inside leave
  simp only [Search.effect, noted] at second
  by_cases same : start = t.config.position
  · simp only [decide_eq_true same] at second
    refine ⟨t', first, second.trans ?_⟩
    simp only [Thread.checked, if_pos same]
    rfl
  · simp only [decide_eq_false same] at second
    refine ⟨t', first, second.trans ?_⟩
    simp only [Thread.checked, if_neg same]
    rfl

theorem Search.start_within (s : Search E) (valid : s.range.start ≤ s.range.stop) :
    Thread.Within ⟨s.start.config, []⟩ s :=
  ⟨⟨⟨Nat.le_refl _, valid⟩, .initial _ _ _ _⟩, trivial⟩

end PatternMachine

import PatternMachine.Proofs.Nullability.Emptiness

/-! Which backreferences are refused. Registers are made up to the largest index of a capture group, so a
backreference is refused if its index lies above that, and not if it lies in a gap between the groups. -/
namespace PatternMachine

variable {E : Type}

namespace Pattern

mutual

/-- The indices of the capture groups in a pattern, also of those that never take part. -/
def groups : Pattern E → List Nat
  | concat parts => allGroups parts
  | alternation branches => allGroups branches
  | repetition _ _ body => body.groups
  | capture index _ body => index :: body.groups
  | lookahead _ body => body.groups
  | atomic body => body.groups
  | empty | any | element _ | literal _ | predicate _ | consumer _ | reference _ | anchor _
  | backreference _ => []

def allGroups : List (Pattern E) → List Nat
  | [] => []
  | q :: rest => q.groups ++ allGroups rest

end

mutual

/-- The groups that are counted reach up to the largest index. -/
theorem lt_captureCount_iff {i : Nat} : (q : Pattern E) → (i < q.captureCount ↔ ∃ j ∈ q.groups, i ≤ j)
  | concat parts => lt_captureCounts_iff parts
  | alternation branches => lt_captureCounts_iff branches
  | repetition _ _ body => lt_captureCount_iff body
  | capture index _ body => by
    rw [captureCount, groups, lt_max_iff, lt_captureCount_iff body, Nat.lt_succ_iff]
    simp
  | lookahead _ body => lt_captureCount_iff body
  | atomic body => lt_captureCount_iff body
  | empty | any | element _ | literal _ | predicate _ | consumer _ | reference _ | anchor _
  | backreference _ => by simp [captureCount, groups]

theorem lt_captureCounts_iff {i : Nat} :
    (parts : List (Pattern E)) → (i < captureCounts parts ↔ ∃ j ∈ allGroups parts, i ≤ j)
  | [] => by simp [captureCounts, allGroups]
  | q :: rest => by
    rw [captureCounts, allGroups, lt_max_iff, lt_captureCount_iff q, lt_captureCounts_iff rest]
    simp [or_and_right, exists_or]

end

end Pattern

/-- The indices of the capture groups in all productions, whether they can be reached or not. -/
def Grammar.groups (g : Grammar E) : List Nat := Pattern.allGroups (g.productions.map (·.2))

/-- The code of a production that can be reached refers back to this group. -/
def Grammar.RefersBack (g : Grammar E) (index : Nat) : Prop :=
  ∃ name body, g.Reached name ∧ g.get? name = some body ∧ (Pattern.backreference index).Part body

namespace Compilation

variable {c d : Compilation E} {n : Nat}

/-! ### What is refused -/

/-- The groups stay as they are, and a backreference is refused only to one that is not there. -/
def Heeds (groups : Nat → Prop) : Compilation E → Outcome (Compilation E) → Prop :=
  Along (fun c d => d.captures = c.captures) fun c e =>
    ∀ index, e = .error (.invalidBackreference index) → groups index ∧ c.captures.size ≤ index

theorem heeds_leadsOn {groups : Nat → Prop} :
    LeadsOn (E := E) (fun c d => d.captures = c.captures) fun c e =>
      ∀ index, e = .error (.invalidBackreference index) →
        groups index ∧ c.captures.size ≤ index where
  trans h h' := h'.trans h
  back same errs := by rwa [same] at errs
  quiet _ _ _ := rfl
  other _ _ _ other index eq := absurd eq (other index)

theorem heeds_entry {groups : Nat → Prop} (name : String) (c : Compilation E) :
    Heeds groups c ((c.entry name).map (·.2)) := by
  unfold entry
  cases c.entries.lookup name with
  | some token => rfl
  | none =>
    cases c.productions.lookup name with
    | none => exact nofun
    | some body => rfl

section

variable [DecidableEq E]

theorem heeds_pattern (q : Pattern E) (c : Compilation E) :
    Heeds (fun index => (Pattern.backreference index).Part q) c (q.emit c) := by
  have steps : Stepwise (fun _ => True) (fun index => (Pattern.backreference index).Part q)
      fun body : Emission E => ∀ c, Heeds _ c (body c) :=
    heeds_leadsOn.stepwise (fun name _ => heeds_entry name) fun index part c unknown => by
      rintro _ ⟨⟩
      exact ⟨part, Array.getElem?_eq_none_iff.mp unknown⟩
  exact steps.emitPattern q (fun _ _ => trivial) (fun _ => id) c

theorem heeds_production (q : PendingProduction E) (c : Compilation E) :
    Heeds (fun index => (Pattern.backreference index).Part q.body) c (c.emitProduction q) := by
  have inner (c : Compilation E) : Heeds (fun index => (Pattern.backreference index).Part q.body) c
      (q.body.emit c >>= fun c => c.emit .ret) :=
    heeds_leadsOn.bind (heeds_pattern q.body c) fun d _ => heeds_leadsOn.emit .ret d
  refine heeds_leadsOn.bind (heeds_leadsOn.label q.entry c) fun c₁ _ => ?_
  exact heeds_leadsOn.bind (heeds_leadsOn.emit _ c₁) fun c₂ _ => inner c₂

omit [DecidableEq E] in
theorem makeCaptures_size (made : makeCaptures n c = .ok d) :
    d.captures.size = c.captures.size + n := by
  induction n generalizing c with
  | zero => cases made; rfl
  | succ n ih =>
    obtain ⟨⟨register, assembler⟩, -, made⟩ := bind_eq_ok.mp made
    rw [ih made, Array.size_push, Nat.add_right_comm, Nat.add_assoc]

omit [DecidableEq E] in
/-- Only a contract can be broken by it. -/
theorem makeCaptures_error {what : CompileError} : makeCaptures n c ≠ .error (.error what) := by
  induction n generalizing c with
  | zero =>
    intro failed
    cases failed
  | succ n ih =>
    unfold makeCaptures
    cases c.assembler.makeCaptureRegister with
    | error f =>
      intro failed
      cases failed
    | ok made => exact ih

theorem emitPending_refused {g : Grammar E} {done : List String} {rounds index : Nat}
    (ledger : Ledger g done c)
    (refused : emitPending rounds c = .error (.error (.invalidBackreference index))) :
    g.RefersBack index ∧ c.captures.size ≤ index := by
  induction rounds generalizing c done with
  | zero => cases refused
  | succ rounds ih =>
    simp only [emitPending] at refused
    cases pending : c.pending with
    | nil => simp [pending] at refused
    | cons q rest =>
      simp only [pending] at refused
      have heeds := heeds_production q { c with pending := rest }
      have waits : q ∈ c.pending := by simp [pending]
      rcases bind_eq_error.mp refused with refused | ⟨d, produced, refused⟩
      · rw [refused] at heeds
        obtain ⟨part, missing⟩ := heeds index rfl
        have met : q.name ∈ c.entries.map (·.1) :=
          ledger.met.mem_iff.mpr (List.mem_append_right _ (List.mem_map_of_mem waits))
        exact ⟨⟨q.name, q.body, ledger.reached _ met, ledger.waiting q waits, part⟩, missing⟩
      · rw [produced] at heeds
        have same : d.captures = c.captures := heeds
        rw [← same]
        exact ih (ledger.produce pending produced) refused

end

end Compilation

open Compilation

section

variable [DecidableEq E] {limit index : Nat}

/-! ### Patterns and grammars -/

theorem Pattern.compile_refused {q : Pattern E}
    (h : q.compile limit = .error (.error (.invalidBackreference index))) :
    (backreference index).Part q ∧ q.captureCount ≤ index := by
  rw [q.compile_eq] at h
  rcases bind_eq_error.mp h with h | ⟨d, -, h⟩
  · rcases bind_eq_error.mp h with h | ⟨c, made, h⟩
    · exact absurd h makeCaptures_error
    · have heeds : Heeds (fun index => (backreference index).Part q) c
          (q.emit c >>= fun c => c.emit .accept) :=
        heeds_leadsOn.bind (heeds_pattern q c) fun d _ => heeds_leadsOn.emit .accept d
      rw [h] at heeds
      obtain ⟨part, missing⟩ := heeds index rfl
      rw [makeCaptures_size made] at missing
      exact ⟨part, by simpa [start] using missing⟩
  · cases finish_error h

/-- The jump to the start production refers to no group. -/
theorem Compilation.heeds_jump (name : String) (c : Compilation E) : Heeds (fun _ => False) c
    (c.entry name >>= fun met => met.2.emit (.branch met.1)) :=
  heeds_leadsOn.made (f := fun token c => c.emit (.branch token)) (heeds_entry name c)
    fun _ => heeds_leadsOn.emit _

theorem Grammar.compile_refused {g : Grammar E}
    (h : g.compile limit = .error (.error (.invalidBackreference index))) :
    g.RefersBack index ∧ g.captureCount ≤ index := by
  rw [g.compile_eq] at h
  rcases bind_eq_error.mp h with h | ⟨d, -, h⟩
  · rcases bind_eq_error.mp h with h | ⟨c, opened, h⟩
    · rcases bind_eq_error.mp h with h | ⟨c, -, h⟩
      · exact absurd h makeCaptures_error
      · have heeds := heeds_jump g.start c
        rw [h] at heeds
        exact (heeds index rfl).1.elim
    · obtain ⟨refers, missing⟩ := emitPending_refused (openGrammar_ledger opened) h
      obtain ⟨b, made, jumped⟩ := bind_eq_ok.mp opened
      have heeds := heeds_jump g.start b
      rw [jumped] at heeds
      have same : c.captures = b.captures := heeds
      rw [same, makeCaptures_size made] at missing
      exact ⟨refers, by simpa [Compilation.start] using missing⟩
  · cases finish_error h

end

theorem Pattern.Placed.refersBack {p : Program E} {index : Nat} {entry : String → Option Address} {q : Pattern E}
    {lo hi : Nat} (placed : q.Placed p entry lo hi) (part : (backreference index).Part q) :
    (∃ k, p.operation? k = some (.backreference ⟨index⟩)) ∧ index < p.registers.captures := by
  obtain ⟨lo', hi', -, op, known, rfl, below⟩ := part.placed placed
  exact ⟨⟨lo', known⟩, below⟩

/-- How far backreferences are checked: those that have code are to groups, or to indices below that of a
group, and one that is refused lies above all groups. If there are no gaps between the groups, this is all
there is to check. -/
structure BackreferencesChecked (compiled : Outcome (Program E)) (emitted : Nat → Prop)
    (groups : List Nat) : Prop where
  coded : ∀ p, compiled = .ok p → ∀ index, emitted index →
    ∃ k, p.operation? k = some (.backreference ⟨index⟩)
  below : ∀ p, compiled = .ok p → ∀ index, emitted index → ∃ j ∈ groups, index ≤ j
  refused : ∀ index, compiled = .error (.error (.invalidBackreference index)) →
    emitted index ∧ index ∉ groups ∧ ∀ j ∈ groups, j < index
  defined : (∀ j ∈ groups, ∀ index < j, index ∈ groups) → ∀ p, compiled = .ok p →
    ∀ index, emitted index → index ∈ groups

/-- It is enough to compare with the number of registers. -/
theorem BackreferencesChecked.of_count {compiled : Outcome (Program E)} {emitted : Nat → Prop}
    {groups : List Nat} {count : Nat} (counts : ∀ i, i < count ↔ ∃ j ∈ groups, i ≤ j)
    (ok : ∀ p, compiled = .ok p → ∀ index, emitted index →
      (∃ k, p.operation? k = some (.backreference ⟨index⟩)) ∧ index < count)
    (error : ∀ index, compiled = .error (.error (.invalidBackreference index)) →
      emitted index ∧ count ≤ index) : BackreferencesChecked compiled emitted groups where
  coded p compiled index refers := (ok p compiled index refers).1
  below p compiled index refers := (counts index).mp (ok p compiled index refers).2
  refused index compiled := by
    obtain ⟨refers, above⟩ := error index compiled
    have largest (j : Nat) (member : j ∈ groups) : j < index := by
      by_contra least
      have below := (counts index).mpr ⟨j, member, by omega⟩
      omega
    exact ⟨refers, fun member => Nat.lt_irrefl _ (largest index member), largest⟩
  defined noGaps p compiled index refers := by
    obtain ⟨j, member, le⟩ := (counts index).mp (ok p compiled index refers).2
    rcases Nat.lt_or_eq_of_le le with lt | rfl
    · exact noGaps j member index lt
    · exact member

/-- Backreferences are compared with the largest index of a group, and not with the groups themselves. -/
theorem backreferences_checked_by_largest [DecidableEq E] (limit : Nat) :
    (∀ q : Pattern E, BackreferencesChecked (q.compile limit)
      (fun index => (Pattern.backreference index).Part q) q.groups) ∧
    ∀ g : Grammar E, BackreferencesChecked (g.compile limit) g.RefersBack g.groups := by
  constructor
  · intro q
    refine .of_count (fun i => q.lt_captureCount_iff) ?_ fun index => q.compile_refused
    intro p compiled index part
    obtain ⟨hi, placed⟩ := Pattern.compile_placed compiled
    rw [← placed.groups]
    exact placed.placed.refersBack part
  · intro g
    refine .of_count (fun i => Pattern.lt_captureCounts_iff _) ?_ fun index => g.compile_refused
    rintro p compiled index ⟨name, body, reached, known, part⟩
    obtain ⟨entry, names, laid⟩ := g.compile_laidOut compiled
    obtain ⟨-, -, groups⟩ := g.compile_placed compiled
    obtain ⟨lo, hi, body', comment, mid, known', -, -, -, placed, -⟩ :=
      laid.functions.mem ((laid.reached name).mpr reached)
    cases known.symm.trans known'
    have refers := placed.refersBack part
    rwa [groups] at refers

/-- Only the group with index one is there. A backreference to group zero is not refused, and
does not match. -/
theorem backreferences_checked_by_largest_gap :
    let q : Pattern Nat := .concat [.capture 1 none (.element 7), .backreference 0]
    ∃ p, q.compile 100 = .ok p ∧ (Pattern.backreference 0).Part q ∧ 0 ∉ q.groups ∧
      (∃ k, p.operation? k = some (.backreference ⟨0⟩)) ∧ (∃ j ∈ q.groups, 0 ≤ j) ∧
      (Engine.findMatch ⟨p, {}⟩ #[7, 7] ⟨0, 2⟩ .anywhere).result #[] = .ok (.ok none) := by
  intro q
  have runs : (q.compile 100).toOption.any fun p =>
      ((Engine.findMatch ⟨p, {}⟩ #[7, 7] ⟨0, 2⟩ .anywhere).result #[]).toOption.bind
        Except.toOption = some none := by decide +kernel
  cases compiled : q.compile 100 with
  | error e => rw [compiled] at runs; cases runs
  | ok p =>
    rw [compiled] at runs
    have part : (Pattern.backreference 0).Part q := .concat (.tail _ (.head _)) .self
    have checked := (backreferences_checked_by_largest (E := Nat) 100).1 q
    exact ⟨p, rfl, part, by decide, checked.coded p compiled 0 part, checked.below p compiled 0 part,
      eq_ok_ok (of_decide_eq_true runs)⟩

end PatternMachine

import PatternMachine.Compilation.Pattern
import PatternMachine.Proofs.Layout.Construct

/-! The code of a pattern stands in every program that is finished later on. A pattern that compiles
stands in front of the acceptance of its program. -/
namespace PatternMachine

variable {E : Type}

namespace Compilation

variable {c d final : Compilation E} {p : Program E} {least made : Nat}

/-- The address at which a production is called. -/
def entryOf (final : Compilation E) (name : String) : Option Address :=
  (final.entries.lookup name).bind final.assembler.address?

/-- Every pattern may be preceded by a check of the size. -/
theorem Emits.checked {body : Emission E} {shape : Shape}
    (h : Emits final p least made body shape) :
    Emits final p least made (fun c => do body (← c.checkSize)) shape := by
  intro c d le run
  obtain ⟨c', checked, run⟩ := bind_eq_ok.mp run
  cases checkSize_eq checked
  exact h c d le run

theorem checkSize_emits : Emits final p least made checkSize .nothing := by
  intro c d _ run
  cases checkSize_eq run
  exact ⟨.refl c, fun _ _ => rfl⟩

theorem entry_adds {name : String} {token : Token} (h : c.entry name = .ok (token, d)) :
    Adds final p least c d ∧ d.size = c.size ∧ d.entries.lookup name = some token := by
  unfold entry at h
  split at h
  next known => cases h; exact ⟨.refl c, rfl, known⟩
  next unknown =>
    split at h
    · cases h
    next body found =>
      cases h
      have grows := c.assembler.makeToken_extends
      refine ⟨⟨⟨grows, rfl, rfl, ?_, fun fits => ⟨fits.mono grows, fits.captures⟩,
        rfl⟩, ⟨[_], rfl, rfl, ?_, ?_⟩, ?_⟩, rfl, ?_⟩
      · intro name' token' known
        by_cases same : name' = name
        · rw [same, unknown] at known; cases known
        · have other : (name' == name) = false := beq_eq_false_iff_ne.mpr same
          simpa [List.lookup_cons, other] using known
      · intro q member
        cases List.mem_singleton.mp member
        exact found
      · intro distinct
        refine List.nodup_cons.mpr ⟨fun member => ?_, distinct⟩
        obtain ⟨q, known, rfl⟩ := List.mem_map.mp member
        simpa using List.lookup_eq_none_iff.mp unknown q known
      · intro _ i register above below
        exact absurd below (Nat.not_lt.mpr above)
      · exact List.lookup_cons_self

section

variable [DecidableEq E] (assembled : final.assembler.assemble = .ok p)

include assembled

theorem element_emits (e : E) :
    Emits final p least made (·.emit (.matchElement e)) (.element p e) :=
  single_emits assembled (by simp) fun _ means => means

theorem literal_emits (elements : List E) :
    Emits final p least made (emitLiteral elements) (.literal p elements) := by
  induction elements with
  | nil => exact nothing_emits
  | cons e rest ih => exact andThen_emits (element_emits assembled e) ih

theorem predicate_emits (f : E → Bool) :
    Emits final p least made (·.emitPredicate f) (.predicate p f) := by
  intro c d le run
  have grows := c.assembler.addPredicate_extends f
  have added : Adds final p least c { c with assembler := (c.assembler.addPredicate f).2 } :=
    .of_assembler grows rfl rfl fun fits => fits.mono grows
  obtain ⟨adds, size⟩ := emit_quiet assembled run (by simp)
  refine ⟨added.trans adds, fun grows _ => ⟨size, ?_⟩⟩
  obtain ⟨_, place, rfl⟩ := emit_stands assembled run grows
  obtain ⟨-, -, predicates, -⟩ := Assembler.assemble_spec assembled
  refine ⟨_, place, _, rfl, ?_⟩
  rw [predicates]
  exact (adds.toExtends.trans grows).assembler.predicates _ _ Array.getElem?_push_size

theorem consumer_emits (f : ConsumeFunction E) :
    Emits final p least made (·.emitConsumer f) (.consumer p f) := by
  intro c d le run
  have grows := c.assembler.addConsumeFunction_extends f
  have added :
      Adds final p least c { c with assembler := (c.assembler.addConsumeFunction f).2 } :=
    .of_assembler grows rfl rfl fun fits => fits.mono grows
  obtain ⟨adds, size⟩ := emit_quiet assembled run (by simp)
  refine ⟨added.trans adds, fun grows _ => ⟨size, ?_⟩⟩
  obtain ⟨_, place, rfl⟩ := emit_stands assembled run grows
  obtain ⟨-, -, -, consumers, -⟩ := Assembler.assemble_spec assembled
  refine ⟨_, place, _, rfl, ?_⟩
  rw [consumers]
  exact (adds.toExtends.trans grows).assembler.consumeFunctions _ _ Array.getElem?_push_size

theorem capture_emits {index : Nat} {body : Emission E} {shape : Shape}
    (h : Emits final p least made body shape) :
    Emits final p least made (·.emitCapture index body) (.capture p ⟨index⟩ shape) := by
  intro c d le run
  simp only [emitCapture] at run
  split at run
  · cases run
  next register known =>
    obtain ⟨c₁, opened, run⟩ := bind_eq_ok.mp run
    obtain ⟨c₂, inner, closed⟩ := bind_eq_ok.mp run
    obtain ⟨adds₁, size₁⟩ := emit_quiet assembled opened (by simp)
    obtain ⟨adds₂, inside⟩ := h _ _ (Nat.le_trans le adds₁.assembler.positions) inner
    obtain ⟨adds_d, size_d⟩ := emit_quiet assembled closed (by simp)
    have adds := adds₁.trans (adds₂.trans adds_d)
    refine ⟨adds, fun grows fits => ?_⟩
    have grows₂ := adds_d.toExtends.trans grows
    obtain ⟨_, first, rfl⟩ := emit_stands assembled opened (adds₂.toExtends.trans grows₂)
    obtain ⟨_, last, rfl⟩ := emit_stands assembled closed grows
    have body := inside grows₂ (adds₁.fits fits)
    obtain ⟨rfl, bound⟩ := fits.captures index register known
    rw [← (adds.toExtends.trans grows).registers_eq assembled] at bound
    rw [size₁] at body
    exact ⟨c₂.size, first, body, last, size_d, bound⟩

theorem backreference_emits {index : Nat} :
    Emits final p least made (·.emitBackreference index) (.backreference p ⟨index⟩) := by
  intro c d le run
  simp only [emitBackreference] at run
  split at run
  · cases run
  next register known =>
    obtain ⟨adds, size⟩ := emit_quiet assembled run (by simp)
    refine ⟨adds, fun grows fits => ⟨size, ?_⟩⟩
    obtain ⟨_, place, rfl⟩ := emit_stands assembled run grows
    obtain ⟨rfl, bound⟩ := fits.captures index register known
    rw [← (adds.toExtends.trans grows).registers_eq assembled] at bound
    exact ⟨_, place, rfl, bound⟩

theorem reference_emits {name : String} :
    Emits final p least made (·.emitReference name)
      (.single p fun op => ∃ a, op = .call a ∧ final.entryOf name = some a) := by
  intro c d le run
  obtain ⟨⟨token, c₁⟩, found, run⟩ := bind_eq_ok.mp run
  obtain ⟨adds₁, size₁, known⟩ := entry_adds found
  obtain ⟨adds, size⟩ := emit_quiet assembled run (by simp)
  refine ⟨adds₁.trans adds, fun grows _ => ⟨by omega, ?_⟩⟩
  obtain ⟨_, place, a, rfl, bound⟩ := emit_stands assembled run grows
  have known := (adds.toExtends.trans grows).entries _ _ known
  exact ⟨_, size₁ ▸ place, a, rfl, by rw [entryOf, known]; exact bound⟩

theorem anchor_emits (a : Anchor) :
    Emits final p least made (·.emitAnchor a) ((Pattern.anchor a).Placed p final.entryOf) := by
  cases a with
  | start => exact consumer_emits assembled _
  | stop =>
    exact lookingAhead_emits assembled (single_emits assembled (by simp) fun _ means => means)

theorem repetition_emits {amount : Amount} {preference : Preference} {nullable : Bool}
    {body : Emission E} {shape : Shape} (h : ∀ n, Emits final p n n body shape) (n : Nat) :
    Emits final p n n (·.emitRepetition amount preference nullable body)
      (.repetition p amount preference nullable shape) := by
  have go : Emits final p n n (emitRepetition.go · amount preference nullable body)
      (.repetition p amount preference nullable shape) := by
    cases preference with
    | greedy => exact repeated_emits assembled h n
    | reluctant => exact repeated_emits assembled h n
    | possessive => exact atomically_emits assembled (repeated_emits assembled h n)
  intro c d le run
  simp only [emitRepetition] at run
  split at run
  · split at run
    · cases run
    · exact go c d le run
  · exact go c d le run

end

end Compilation

namespace Pattern

open Compilation

variable [DecidableEq E] {final : Compilation E} {p : Program E}

mutual

/-- The code of a pattern stands where it was emitted. -/
theorem emit_placed (assembled : final.assembler.assemble = .ok p) (n : Nat) :
    (q : Pattern E) → Emits final p n n q.emit (q.Placed p final.entryOf)
  | empty => checkSize_emits
  | any => (single_emits assembled (by simp) fun _ means => means).checked
  | element e => (element_emits assembled e).checked
  | literal elements => (literal_emits assembled elements).checked
  | predicate f => (predicate_emits assembled f).checked
  | consumer f => (consumer_emits assembled f).checked
  | concat parts => (emitParts_placed assembled n parts).checked
  | alternation branches => by
    intro c d le run
    obtain ⟨c', checked, run⟩ := bind_eq_ok.mp run
    cases checkSize_eq checked
    rcases token : c.makeToken with ⟨done, a⟩
    simp only [token] at run
    obtain ⟨c₁, inner, finish⟩ := bind_eq_ok.mp run
    obtain ⟨adds_a, size_a⟩ := makeToken_adds token
    obtain ⟨adds₁, inside⟩ := emitBranches_placed assembled n done branches a c₁
      (Nat.le_trans le adds_a.assembler.positions) inner
    obtain ⟨adds_d, size_d, bound⟩ := label_adds finish
    refine ⟨adds_a.trans (adds₁.trans adds_d), fun grows fits => ?_⟩
    have placed := inside (adds_d.toExtends.trans grows) (adds_a.fits fits) _
      (grows.assembler.address _ _ bound)
    rw [size_a] at placed
    rw [size_d]
    exact placed
  | repetition amount preference body =>
    (repetition_emits assembled (fun n => emit_placed assembled n body) n).checked
  | capture index _ body =>
    (capture_emits assembled (emit_placed assembled n body)).checked
  | reference name => (reference_emits assembled).checked
  | lookahead kind body => (lookingAhead_emits assembled (emit_placed assembled n body)).checked
  | atomic body => (atomically_emits assembled (emit_placed assembled n body)).checked
  | anchor a => (anchor_emits assembled a).checked
  | backreference index => (backreference_emits assembled).checked

theorem emitParts_placed (assembled : final.assembler.assemble = .ok p) (n : Nat) :
    (parts : List (Pattern E)) →
      Emits final p n n (emitParts parts) (PlacedParts p final.entryOf parts)
  | [] => nothing_emits
  | q :: rest =>
    andThen_emits (emit_placed assembled n q) (emitParts_placed assembled n rest)

theorem emitBranches_placed (assembled : final.assembler.assemble = .ok p) (n : Nat) (done : Token) :
    (branches : List (Pattern E)) → Emits final p n n (emitBranches done branches)
      (final.Leading done fun done => PlacedBranches p final.entryOf done branches)
  | [] => by
    intro c d le run
    obtain ⟨adds, inside⟩ :=
      single_emits assembled (by simp) (fun _ means => means) c d le run
    exact ⟨adds, fun grows fits _ _ => inside grows fits⟩
  | [q] => by
    intro c d le run
    obtain ⟨adds, inside⟩ := emit_placed assembled n q c d le run
    exact ⟨adds, fun grows fits _ _ => inside grows fits⟩
  | q :: q' :: rest => by
    intro c d le run
    obtain ⟨adds, inside⟩ := andThen_emits
      (branch_emits assembled (emit_placed assembled n q))
      (emitBranches_placed assembled n done (q' :: rest)) c d le run
    refine ⟨adds, fun grows fits address bound => ?_⟩
    obtain ⟨mid, first, others⟩ := inside grows fits
    exact ⟨mid, first address bound, others address bound⟩

end

end Pattern

end PatternMachine

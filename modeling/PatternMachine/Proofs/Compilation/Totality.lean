import PatternMachine.Proofs.Compilation.Building
import PatternMachine.Proofs.Compilation.Functions

/-! Compiling gives a program or says what is wrong with the pattern, whatever it is. -/
namespace PatternMachine

variable {E : Type}

theorem Pattern.captureCount_le {q : Pattern E} {parts : List (Pattern E)} (member : q ∈ parts) :
    q.captureCount ≤ Pattern.captureCounts parts := by
  induction parts with
  | nil => cases member
  | cons first rest ih =>
    change _ ≤ max first.captureCount (Pattern.captureCounts rest)
    rcases List.mem_cons.mp member with rfl | member
    · exact Nat.le_max_left _ _
    · exact Nat.le_trans (ih member) (Nat.le_max_right _ _)

namespace Compilation

variable {n : Nat} {awaited : List Token} {b c d : Compilation E} {body : Emission E}

section

variable [DecidableEq E]

/-! ### Patterns -/

theorem literal_safe (elements : List E) (sound : c.Sound n 0 awaited)
    (room : c.size + elements.length ≤ 2 ^ 33) :
    Safe (After n 0 awaited elements.length c) (emitLiteral elements c) := by
  induction elements generalizing c with
  | nil => exact sound.still
  | cons e rest ih =>
    rw [List.length_cons] at room ⊢
    refine .then sound.still (sound.emit_plain rfl rfl nofun (by omega)) fun c₁ first => ?_
    have size := first.size
    refine (ih first.sound (by omega)).mono fun d others => ?_
    have after := first.trans others
    rwa [show 0 + 1 + rest.length = rest.length + 1 by omega] at after

omit [DecidableEq E] in
/-- What adds fewer instructions than a literal may have. -/
theorem After.reaches {k : Nat} (h : After n 0 awaited k c d) (short : k ≤ 2 ^ 32)
    (few : c.size ≤ 2 ^ 32) : Reaches n awaited c d := by
  have size := h.size
  exact ⟨h.sound, h.later, by omega⟩

theorem literal_within {elements : List E} (short : elements.length < 2 ^ 32) :
    Within n (2 ^ 32) (emitLiteral elements) := by
  intro c awaited sound few
  refine (literal_safe elements sound (by omega)).mono fun d after => ?_
  exact after.reaches (by omega) few

theorem predicate_within (p : E → Bool) : Within n (2 ^ 32) (·.emitPredicate p) := by
  intro c awaited sound few
  refine (sound.emitPredicate p (by omega)).mono fun d after => ?_
  exact after.reaches (by omega) few

theorem consumer_within (f : ConsumeFunction E) : Within n (2 ^ 32) (·.emitConsumer f) := by
  intro c awaited sound few
  refine (sound.emitConsumer f (by omega)).mono fun d after => ?_
  exact after.reaches (by omega) few

theorem single_within {st : Statement E} (plain : st.registers = []) (stays : st.target? = none)
    (still : ∀ k, st = .consume k → k = 1) : Within n (2 ^ 32) (·.emit st) :=
  fun c awaited sound few => emit_within plain stays still c awaited sound (by omega)

theorem anchor_within (a : Anchor) :
    Within n (2 ^ 32) fun c : Compilation E => c.emitAnchor a := by
  cases a with
  | start => exact consumer_within Pattern.startOfInput
  | stop =>
    refine lookingAhead_within .negative (emit_within rfl rfl ?_)
    rintro k ⟨⟩
    rfl

theorem capture_within {index : Nat} (below : index < n) (inner : Checked n body) :
    Within n (2 ^ 32) (·.emitCapture index body) := by
  intro c awaited sound few
  simp only [emitCapture, sound.group below]
  have has := sound.group_has below
  refine .then sound.still (sound.emit_register has rfl rfl (by omega)) fun c₁ front => ?_
  refine (inner c₁ awaited front.sound).bind fun c₂ inside => ?_
  have room := inside.room
  have has := inside.sound.group_has below
  refine .mono (inside.sound.emit_register has rfl rfl (by omega)) fun d behind => ?_
  exact (inside.around front behind (by omega)).reaches

theorem backreference_within (index : Nat) :
    Within n (2 ^ 32) fun c : Compilation E => c.emitBackreference index := by
  intro c awaited sound few
  simp only [emitBackreference]
  cases known : c.captures[index]? with
  | none => exact ⟨_, rfl⟩
  | some register =>
    obtain ⟨rfl, has⟩ := sound.groups index register known
    have has : c.assembler.counts.Has ⟨_, (⟨index⟩ : CaptureRegister)⟩ := has
    refine .mono (sound.emit_register has rfl rfl (by omega)) fun d after => ?_
    exact after.reaches (by omega) few

theorem reference_within (name : String) :
    Within n (2 ^ 32) fun c : Compilation E => c.emitReference name := by
  intro c awaited sound few
  refine (sound.entry name).bind ?_
  rintro ⟨token, c₁⟩ ⟨met, made⟩
  have size := met.size
  refine .mono (met.sound.emit_jump made rfl rfl (by omega)) fun d after => ?_
  exact (met.trans after).reaches (by omega) few

theorem repetition_within (amount : Amount) (preference : Preference) (nullable : Bool)
    (inner : Checked n body) :
    Within n (2 ^ 32) (·.emitRepetition amount preference nullable body) := by
  have go : Within n (2 ^ 32) (emitRepetition.go · amount preference nullable body) := by
    intro c awaited sound few
    have repeated (greedy : Bool) :=
      repeated_within inner amount.least amount.most greedy nullable
    cases preference with
    | greedy => exact repeated true c awaited sound (by omega)
    | reluctant => exact repeated false c awaited sound (by omega)
    | possessive =>
      refine atomically_within ?_ c awaited sound few
      exact fun c awaited sound few => repeated true c awaited sound (by omega)
  intro c awaited sound few
  unfold emitRepetition
  split
  · split
    · exact ⟨_, rfl⟩
    · exact go c awaited sound few
  · exact go c awaited sound few

theorem alternatives_within {branches : List (Pattern E)}
    (inner : ∀ (c : Compilation E) awaited done, c.Sound n 0 awaited → done ∈ awaited →
      c.size ≤ 2 ^ 32 → Safe (Reaches n awaited c) (Pattern.emitBranches done branches c)) :
    Within n (2 ^ 32) (fun c : Compilation E => do
      let (done, c) := c.makeToken
      let c ← Pattern.emitBranches done branches c
      c.label done) := by
  intro c awaited sound few
  rcases made : c.makeToken with ⟨done, c₁⟩
  simp only [made]
  have front := sound.makeToken made
  have size := front.size
  refine (inner c₁ _ done front.sound (by simp) (by omega)).bind fun c₂ inside => ?_
  exact inside.sound.label.mono fun d behind => inside.inside front behind

mutual

/-- Whatever the pattern, its code breaks no contract. -/
theorem pattern_checked (q : Pattern E) (literals : q.LiteralsBelow (2 ^ 32))
    (groups : q.captureCount ≤ n) : Checked n q.emit := by
  cases q with
  | empty =>
    intro c awaited sound
    refine sound.checkSize.mono ?_
    rintro c ⟨rfl, few⟩
    exact ⟨sound, .refl _, by omega⟩
  | any =>
    refine Within.checked (single_within rfl rfl ?_)
    rintro k ⟨⟩
    rfl
  | element e => exact Within.checked (single_within rfl rfl nofun)
  | literal elements => exact Within.checked (literal_within literals)
  | predicate p => exact Within.checked (predicate_within p)
  | consumer f => exact Within.checked (consumer_within f)
  | concat parts =>
    refine Within.checked fun c awaited sound few => ?_
    exact parts_within parts literals groups c awaited sound (by omega)
  | alternation branches =>
    have inner (c : Compilation E) (awaited : List Token) (done : Token)
        (sound : c.Sound n 0 awaited) (member : done ∈ awaited) (few : c.size ≤ 2 ^ 32) :=
      branches_safe branches literals groups sound member (by omega) fun _ => few
    exact Within.checked (alternatives_within inner)
  | repetition amount preference body =>
    exact Within.checked (repetition_within amount preference _ (pattern_checked body literals groups))
  | capture index name body =>
    have groups : max (index + 1) body.captureCount ≤ n := groups
    exact Within.checked (capture_within (by omega) (pattern_checked body literals (by omega)))
  | reference name => exact Within.checked (reference_within name)
  | lookahead kind body =>
    exact Within.checked (lookingAhead_within kind (pattern_checked body literals groups).within)
  | atomic body =>
    exact Within.checked (atomically_within (pattern_checked body literals groups).within)
  | anchor a => exact Within.checked (anchor_within a)
  | backreference index => exact Within.checked (backreference_within index)

theorem parts_within (parts : List (Pattern E)) (literals : Pattern.AllLiteralsBelow (2 ^ 32) parts)
    (groups : Pattern.captureCounts parts ≤ n) :
    Within n (5 * 2 ^ 32) (Pattern.emitParts parts) := by
  cases parts with
  | nil => exact .nothing
  | cons q rest =>
    have groups : max q.captureCount (Pattern.captureCounts rest) ≤ n := groups
    have first := pattern_checked q literals.1 (by omega)
    exact first.within.andThen (parts_within rest literals.2 (by omega)) (Nat.le_refl _)

/-- No branch at all is one instruction. -/
theorem branches_safe (branches : List (Pattern E))
    (literals : Pattern.AllLiteralsBelow (2 ^ 32) branches)
    (groups : Pattern.captureCounts branches ≤ n) {c : Compilation E} {awaited : List Token}
    {done : Token} (sound : c.Sound n 0 awaited) (member : done ∈ awaited)
    (few : c.size ≤ 5 * 2 ^ 32) (none : branches = [] → c.size ≤ 2 ^ 32) :
    Safe (Reaches n awaited c) (Pattern.emitBranches done branches c) := by
  match branches with
  | [] =>
    have fail : Within n (2 ^ 32) fun c : Compilation E => c.emit .fail :=
      single_within rfl rfl nofun
    exact fail c awaited sound (none rfl)
  | [q] =>
    have groups : max q.captureCount 0 ≤ n := groups
    exact (pattern_checked q literals.1 (by omega)).within c awaited sound few
  | q :: q' :: rest =>
    have groups : max q.captureCount (Pattern.captureCounts (q' :: rest)) ≤ n := groups
    have first := pattern_checked q literals.1 (by omega)
    refine (branch_safe first sound member few).bind fun c₁ front => ?_
    have reaches := front.reaches
    refine .mono (branches_safe (q' :: rest) literals.2 (by omega) front.sound member
      (reaches.size_le few) nofun) fun d others => ?_
    exact reaches.trans others

end

end

/-! ### Beginnings and ends -/

/-- An outcome together with the computation that it comes from. -/
theorem Safe.of {α : Type} {post : α → Prop} {outcome : Outcome α} (h : Safe post outcome) :
    Safe (fun a => post a ∧ outcome = .ok a) outcome := by
  rcases outcome with e | a
  · exact h
  · exact ⟨h, rfl⟩

theorem makeCaptures_safe {k j : Nat} {captures : Array CaptureRegister} (c : Compilation E)
    (size : captures.size = j) (numbered : Grouped captures j) (few : j + k ≤ 2 ^ 32) :
    Safe (fun d => ∃ captures, captures.size = j + k ∧ Grouped captures (j + k) ∧
        d = { c with assembler := { Assembler.empty with nextCapture := ⟨j + k⟩ }, captures })
      (makeCaptures k
        { c with assembler := { Assembler.empty with nextCapture := ⟨j⟩ }, captures }) := by
  induction k generalizing j captures with
  | zero => exact ⟨captures, size, numbered, rfl⟩
  | succ k ih =>
    have top : UInt64.size = 2 ^ 64 := rfl
    have next : (⟨j⟩ : CaptureRegister).successor = .ok ⟨j + 1⟩ := by
      unfold Handle.successor
      rw [if_pos (by change j + 1 < _; omega)]
      rfl
    have made : ({ Assembler.empty with nextCapture := ⟨j⟩ } : Assembler E).makeCaptureRegister =
        .ok (⟨j⟩, { Assembler.empty with nextCapture := ⟨j + 1⟩ }) := by
      unfold Assembler.makeCaptureRegister
      rw [next]
      rfl
    have numbered' : Grouped (captures.push ⟨j⟩) (j + 1) := by
      intro i register known
      rw [Array.getElem?_push] at known
      split at known
      next last =>
        cases known
        exact ⟨by rw [last, size], by omega⟩
      next =>
        obtain ⟨eq, below⟩ := numbered i register known
        exact ⟨eq, by omega⟩
    unfold makeCaptures
    rw [made]
    refine (ih (by rw [Array.size_push, size]) numbered' (by omega)).mono ?_
    rintro d ⟨captures', size', numbered', rfl⟩
    have count : j + 1 + k = j + (k + 1) := by omega
    rw [count] at size' numbered' ⊢
    exact ⟨captures', size', numbered', rfl⟩

/-- Before anything is emitted. -/
theorem start_safe {productions : List (String × Pattern E)} {limit : Nat} (few : n ≤ 2 ^ 32)
    (limited : limit ≤ 2 ^ 32)
    (fine : ∀ q ∈ productions, q.2.LiteralsBelow (2 ^ 32) ∧ q.2.captureCount ≤ n) :
    Safe (fun c => c.Sound n 0 [] ∧ c.size = 0) (makeCaptures n (.start productions limit)) := by
  have nothing : (#[] : Array CaptureRegister).size = 0 := rfl
  have numbered : Grouped #[] 0 := fun i register known => by simp at known
  have made : Safe _ (makeCaptures n (.start productions limit)) :=
    makeCaptures_safe (.start productions limit) nothing numbered (by omega)
  refine made.mono ?_
  rintro d ⟨captures, size, numbered, rfl⟩
  rw [Nat.zero_add] at size numbered ⊢
  refine ⟨⟨?_, nofun, fun _ => rfl, nofun, numbered, size, ?_, fine, nofun⟩, rfl⟩
  · exact .start few
  · exact Nat.le_trans (Nat.min_le_left _ _) limited

/-- All tokens that have an address lie in front of the latest instruction. -/
def Tight (c : Compilation E) : Prop :=
  ∀ token a, c.assembler.address? token = some a → a.index < c.size

theorem Sound.bounded {slack : Nat} (sound : c.Sound n slack awaited) {token : Token} {a : Address}
    (known : c.assembler.address? token = some a) : a.index ≤ c.size := by
  obtain ⟨d, follows, -⟩ := sound.assembler.draft
  rw [follows.address] at known
  exact Nat.le_trans (follows.bounded token a known) (Nat.le_of_eq follows.size.symm)

/-- What a program of the compiler is like: every word is an operation with registers that are there, every
jump stays inside, and `last` is the last operation. -/
structure Linked (last : Operation) (p : Program E) : Prop where
  decodable : p.Decodable
  targets : ∀ i op target, p.operation? i = some op → op.target? = some target →
    target.index < p.code.size
  ends : p.operation? (p.code.size - 1) = some last

/-- Nothing is awaited any more, so that all targets can be filled in. -/
theorem finish_safe (sound : c.Sound n 0 []) (nothing : c.pending = []) (tight : c.Tight) :
    Safe (fun p => p.Decodable ∧ ∀ i op target, p.operation? i = some op →
      op.target? = some target → target.index < p.code.size) c.finish := by
  refine sound.checkSize.bind ?_
  rintro c ⟨rfl, few⟩
  obtain ⟨d, follows, known⟩ := sound.assembler.draft
  have size : c.size = c.assembler.size := rfl
  have bound : ∀ st ∈ d.statements, ∀ token, st.target? = some token → d.address? token ≠ none := by
    intro st member token named none
    have made := (known st member).target token named
    have free := (sound.assembler.open_ token).not.mpr (by simp [nothing])
    rw [← follows.address] at none
    rw [Array.getElem?_eq_getElem made] at free
    rw [Assembler.address?, Array.getElem?_eq_getElem made] at none
    exact free (congrArg some none)
  obtain ⟨p, assembled⟩ := follows.assemble_bound (by omega) bound
  rw [assembled]
  refine ⟨follows.decodable (fun st member => (known st member).registers) assembled, ?_⟩
  intro i op target place named
  have inside : i < d.statements.length := by
    rw [← follows.size, ← Assembler.assemble_size assembled]
    obtain ⟨instruction, there, -⟩ := Option.bind_eq_some_iff.mp place
    exact (Array.getElem?_eq_some_iff.mp there).1
  obtain ⟨op', place', means⟩ :=
    follows.stands i _ (List.getElem?_eq_getElem inside) c.assembler p (.refl _) assembled
  cases place.symm.trans place'
  rw [means.target] at named
  obtain ⟨token, -, bound⟩ := Option.bind_eq_some_iff.mp named
  rw [Assembler.assemble_size assembled]
  exact tight token target bound

section

variable [DecidableEq E]

theorem emit_tight {slack : Nat} {st : Statement E} (sound : c.Sound n slack awaited)
    (emitted : c.emit st = .ok d) : d.Tight := by
  obtain ⟨assembler, added, rfl⟩ := emit_eq emitted
  obtain ⟨tokens, -⟩ := Assembler.emit_line added
  obtain ⟨-, size, -⟩ := Assembler.emit_extends added
  intro token a known
  have size : assembler.size = c.size + 1 := size
  have known : c.assembler.address? token = some a := by
    rw [Assembler.address?, ← tokens]
    exact known
  have le := sound.bounded known
  change a.index < assembler.size
  omega

/-- The last statement is the last operation. -/
theorem emit_ends {st : Statement E} {p : Program E} (emitted : c.emit st = .ok d)
    (finished : d.finish = .ok p) : ∃ op, p.operation? (p.code.size - 1) = some op ∧
      st.Means p d.assembler.address? op := by
  obtain ⟨e, checked, lifted⟩ := bind_eq_ok.mp finished
  cases checkSize_eq checked
  have assembled := lift_eq_ok.mp lifted
  obtain ⟨-, size⟩ : Adds d p 0 c d ∧ d.size = c.size + 1 :=
    emit_adds assembled emitted fun _ _ => Nat.zero_le _
  rw [(finish_size finished).1, size, Nat.add_sub_cancel]
  exact emit_stands assembled emitted (.refl d)

/-! ### Programs -/

theorem alone_safe {q : Pattern E} {limit : Nat} (limited : limit ≤ 2 ^ 32)
    (literals : q.LiteralsBelow (2 ^ 32)) (groups : q.captureCount ≤ 2 ^ 32) :
    Safe (fun c => (c.Sound q.captureCount 0 [] ∧ c.Tight) ∧
        ∃ b : Compilation E, b.emit .accept = .ok c)
      (emitAlone q (.start [] limit)) := by
  refine (start_safe groups limited (by simp)).bind ?_
  rintro a ⟨sound, -⟩
  have inner := pattern_checked q literals (Nat.le_refl _)
  refine (inner a [] sound).bind fun b inside => ?_
  have room := inside.room
  have sound := inside.sound
  have accepts : Safe _ (b.emit .accept) := sound.emit_plain rfl rfl nofun (by omega)
  refine accepts.of.mono ?_
  rintro c ⟨after, emitted⟩
  exact ⟨⟨after.sound, emit_tight sound emitted⟩, b, emitted⟩

/-- The code of a production fills up what its name has begun. -/
theorem emitProduction_safe {q : PendingProduction E} {rest : List (PendingProduction E)}
    (sound : c.Sound n 0 []) (pending : c.pending = q :: rest) (few : c.size ≤ 5 * 2 ^ 32) :
    Safe (fun d => Fills n [] c d ∧ d.Tight) ({ c with pending := rest }.emitProduction q) := by
  have waits (q' : PendingProduction E) (member : q' ∈ rest) : q' ∈ c.pending := by
    rw [pending]
    exact List.mem_cons_of_mem q member
  have steady := sound.assembler
  rw [pending] at steady
  have popped : Sound n 0 [q.entry] { c with pending := rest } :=
    { sound with
      assembler := steady
      waiting := fun q' member => sound.waiting q' (waits q' member) }
  have body := sound.waiting q (by simp [pending])
  obtain ⟨before, after, eq, -⟩ := List.lookup_eq_some_iff.mp body
  obtain ⟨literals, groups⟩ := sound.productions (q.name, q.body) (by simp [eq])
  refine .then popped.still popped.label fun c₁ front => ?_
  have size : c₁.size = c.size := front.size
  refine .then front (front.sound.emit_plain rfl rfl nofun (by omega)) fun c₂ front => ?_
  refine (pattern_checked q.body literals groups c₂ [] front.sound).bind fun c₃ inside => ?_
  have room := inside.room
  have returns : Safe _ (c₃.emit .ret) := inside.sound.emit_plain rfl rfl nofun (by omega)
  refine returns.of.mono ?_
  rintro d ⟨behind, emitted⟩
  have fills := inside.around front behind (by omega)
  exact ⟨⟨fills.sound, fills.later, fills.room⟩, emit_tight inside.sound emitted⟩

theorem emitPending_safe (rounds : Nat) (sound : c.Sound n 0 []) (tight : c.Tight)
    (few : c.size ≤ 5 * 2 ^ 32) :
    Safe (fun d => d.Sound n 0 [] ∧ d.Tight) (emitPending rounds c) := by
  induction rounds generalizing c with
  | zero => exact ⟨sound, tight⟩
  | succ rounds ih =>
    rw [emitPending]
    split
    next => exact ⟨sound, tight⟩
    next q rest pending =>
      refine (emitProduction_safe sound pending few).bind ?_
      rintro d ⟨fills, tight⟩
      have room := fills.room
      exact ih fills.sound tight (by omega)

theorem emitGrammar_safe {g : Grammar E} {limit : Nat} (limited : limit ≤ 2 ^ 32)
    (literals : ∀ q ∈ g.productions, q.2.LiteralsBelow (2 ^ 32)) (groups : g.captureCount ≤ 2 ^ 32) :
    Safe (fun c => c.Sound g.captureCount 0 [] ∧ c.Tight)
      (emitGrammar g (.start g.productions limit)) := by
  have fine (q : String × Pattern E) (member : q ∈ g.productions) :
      q.2.LiteralsBelow (2 ^ 32) ∧ q.2.captureCount ≤ g.captureCount :=
    ⟨literals q member, Pattern.captureCount_le (List.mem_map_of_mem member)⟩
  have opened : Safe (fun c => c.Sound g.captureCount 0 [] ∧ c.Tight ∧ c.size ≤ 1)
      (openGrammar g (.start g.productions limit)) := by
    refine (start_safe groups limited fine).bind ?_
    rintro a ⟨sound, size⟩
    refine (sound.entry g.start).bind ?_
    rintro ⟨token, b⟩ ⟨met, made⟩
    have size' := met.size
    refine (met.sound.emit_jump made rfl rfl (by omega)).of.mono ?_
    rintro c ⟨after, emitted⟩
    have size'' := after.size
    exact ⟨after.sound, emit_tight met.sound emitted, by omega⟩
  refine opened.bind ?_
  rintro c ⟨sound, tight, size⟩
  exact emitPending_safe _ sound tight (by omega)

end

end Compilation

/-- Functions end with a return. -/
theorem Program.Functions.ends {p : Program E} {g : Grammar E} {entry : String → Option Address}
    {names : List String} {lo hi : Nat} (h : p.Functions g entry names lo hi) (some_ : names ≠ []) :
    p.operation? (hi - 1) = some .ret := by
  induction names generalizing lo with
  | nil => contradiction
  | cons name rest ih =>
    obtain ⟨mid, function, others⟩ := h
    cases rest with
    | nil =>
      cases others
      obtain ⟨body, comment, mid, -, -, -, -, -, -, returns, rfl⟩ := function
      rwa [Nat.add_sub_cancel]
    | cons _ _ => exact ih others nofun

open Compilation

section

variable [DecidableEq E] {limit : Nat}

theorem Pattern.compile_safe {q : Pattern E} (limited : limit ≤ 2 ^ 32)
    (literals : q.LiteralsBelow (2 ^ 32)) (groups : q.captureCount ≤ 2 ^ 32) :
    Safe (Linked .accept) (q.compile limit) := by
  rw [q.compile_eq]
  refine (alone_safe limited literals groups).of.bind ?_
  rintro c ⟨⟨⟨sound, tight⟩, b, accepted⟩, emitted⟩
  have meets := meets_alone q (.start [] limit)
  rw [emitted] at meets
  have productions : c.productions = [] := meets.1
  have nothing : c.pending = [] := by
    refine List.eq_nil_iff_forall_not_mem.mpr fun q' member => ?_
    have body := sound.waiting q' member
    rw [productions] at body
    cases body
  refine (finish_safe sound nothing tight).of.mono ?_
  rintro p ⟨⟨decodable, targets⟩, finished⟩
  obtain ⟨_, last, rfl⟩ := emit_ends accepted finished
  exact ⟨decodable, targets, last⟩

theorem Grammar.compile_safe {g : Grammar E} (limited : limit ≤ 2 ^ 32)
    (literals : ∀ q ∈ g.productions, q.2.LiteralsBelow (2 ^ 32)) (groups : g.captureCount ≤ 2 ^ 32) :
    Safe (Linked .ret) (g.compile limit) := by
  have safe : Safe (fun p : Program E => p.Decodable ∧ ∀ i op target, p.operation? i = some op →
      op.target? = some target → target.index < p.code.size) (g.compile limit) := by
    rw [g.compile_eq]
    refine (emitGrammar_safe limited literals groups).of.bind ?_
    rintro c ⟨⟨sound, tight⟩, emitted⟩
    obtain ⟨b, opened, run⟩ := bind_eq_ok.mp emitted
    obtain ⟨nothing, -⟩ := emitPending_done (openGrammar_ledger opened) (by simp) run
    exact finish_safe sound nothing tight
  refine safe.of.mono ?_
  rintro p ⟨⟨decodable, targets⟩, compiled⟩
  obtain ⟨entry, names, laid⟩ := g.compile_laidOut compiled
  have some_ : names ≠ [] := List.ne_nil_of_mem ((laid.reached g.start).mpr .refl)
  exact ⟨decodable, targets, laid.functions.ends some_⟩

/-- A pattern or a grammar, with literals and capture groups within bounds, compiles to a program or is
rejected for what is wrong with it; the compiler breaks no contract. All words of the program are operations
whose registers are there, and all their targets are inside. It ends by accepting, or by returning. -/
theorem compile_total (limited : limit ≤ 2 ^ 32) :
    (∀ q : Pattern E, q.LiteralsBelow (2 ^ 32) → q.captureCount ≤ 2 ^ 32 →
      Safe (Linked .accept) (q.compile limit)) ∧
    ∀ g : Grammar E, (∀ q ∈ g.productions, q.2.LiteralsBelow (2 ^ 32)) →
      g.captureCount ≤ 2 ^ 32 → Safe (Linked .ret) (g.compile limit) :=
  ⟨fun _ => Pattern.compile_safe limited, fun _ => Grammar.compile_safe limited⟩

end

/-- A loop with a check inside assertions and a group, and two productions that call each other. -/
theorem compile_total_forty :
    let loop : Pattern Nat := .repetition .zeroOrMore .greedy (.alternation [.literal [1, 2], .empty])
    let q : Pattern Nat := .concat [.capture 1 none (.lookahead .negative loop), .backreference 1]
    let g : Grammar Nat := ⟨"a", [("a", .alternation [q, .reference "b"]), ("b", .reference "a")]⟩
    (∃ p, q.compile 40 = .ok p ∧ Linked .accept p) ∧ ∃ p, g.compile 40 = .ok p ∧ Linked .ret p := by
  intro loop q g
  have accepted : (q.compile 40).toOption.isSome = true := by decide +kernel
  have accepted' : (g.compile 40).toOption.isSome = true := by decide +kernel
  obtain ⟨p, compiled⟩ := exists_ok accepted
  obtain ⟨p', compiled'⟩ := exists_ok accepted'
  obtain ⟨patterns, grammars⟩ := compile_total (E := Nat) (show 40 ≤ 2 ^ 32 by decide)
  have short : q.LiteralsBelow (2 ^ 32) :=
    ⟨⟨(by decide : 2 < 2 ^ 32), trivial, trivial⟩, trivial, trivial⟩
  have shorts : ∀ r ∈ g.productions, r.2.LiteralsBelow (2 ^ 32) := by
    intro r member
    rcases List.mem_cons.mp member with rfl | member
    · exact ⟨short, trivial, trivial⟩
    · cases List.mem_singleton.mp member
      trivial
  have safe := patterns q short (by decide)
  have safe' := grammars g shorts (by decide)
  rw [compiled] at safe
  rw [compiled'] at safe'
  exact ⟨⟨p, compiled, safe⟩, p', compiled', safe'⟩

end PatternMachine

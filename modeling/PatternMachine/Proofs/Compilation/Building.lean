import PatternMachine.Proofs.Compilation.Sound

/-! Constructs bind what they await, and nothing is emitted long after the size has been checked: what a
construct adds behind its body is less than three times what it has put in front of it. -/
namespace PatternMachine

variable {E : Type}

namespace Compilation

variable {n m : Nat} {awaited : List Token} {b c d : Compilation E} {body : Emission E}

/-- Everything that was awaited still is. The further back it began, the larger the size may have become. -/
structure Fills (n : Nat) (awaited : List Token) (c d : Compilation E) : Prop where
  sound : d.Sound n 0 awaited
  later : c.assembler.Later d.assembler
  room : d.size + 3 * c.size ≤ 5 * 2 ^ 32

/-- The same, or nothing has been emitted. -/
structure Reaches (n : Nat) (awaited : List Token) (c d : Compilation E) : Prop where
  sound : d.Sound n 0 awaited
  later : c.assembler.Later d.assembler
  room : d.size = c.size ∨ d.size + 3 * c.size ≤ 5 * 2 ^ 32

theorem Reaches.le (h : Reaches n awaited c d) : c.size ≤ d.size := h.later.size

theorem Fills.reaches (h : Fills n awaited c d) : Reaches n awaited c d :=
  ⟨h.sound, h.later, .inr h.room⟩

theorem Reaches.refl (h : c.Sound n 0 awaited) : Reaches n awaited c c := ⟨h, .refl _, .inl rfl⟩

theorem Reaches.trans (h : Reaches n awaited b c) (h' : Reaches n awaited c d) :
    Reaches n awaited b d := by
  have le := h.le
  have le' := h'.le
  have room := h.room
  have room' := h'.room
  exact ⟨h'.sound, h.later.trans h'.later, by omega⟩

/-- What was small is never large. -/
theorem Reaches.size_le (h : Reaches n awaited c d) (few : c.size ≤ 5 * 2 ^ 32) :
    d.size ≤ 5 * 2 ^ 32 := by
  have room := h.room
  omega

/-- A body between `k` instructions and `j` others. -/
theorem Fills.around {slack k j : Nat} {awaited' : List Token} {e : Compilation E}
    (front : After n slack awaited' k b c) (inner : Fills n awaited' c d)
    (behind : After n 0 awaited j d e) (short : j ≤ 3 * k) : Fills n awaited b e := by
  have size := front.size
  have size' := behind.size
  have room := inner.room
  exact ⟨behind.sound, (front.later.trans inner.later).trans behind.later, by omega⟩

theorem Reaches.around {slack k j : Nat} {awaited' : List Token} {e : Compilation E}
    (front : After n slack awaited' k b c) (inner : Reaches n awaited' c d)
    (behind : After n 0 awaited j d e) (short : j ≤ 3 * k)
    (few : 4 * b.size + k + j ≤ 5 * 2 ^ 32) : Fills n awaited b e := by
  have size := front.size
  have size' := behind.size
  have room := inner.room
  exact ⟨behind.sound, (front.later.trans inner.later).trans behind.later, by omega⟩

/-- Nothing is emitted in front of the body, and nothing behind it. -/
theorem Reaches.inside {slack : Nat} {awaited' : List Token} {e : Compilation E}
    (front : After n slack awaited' 0 b c) (inner : Reaches n awaited' c d)
    (behind : After n 0 awaited 0 d e) : Reaches n awaited b e := by
  have size := front.size
  have size' := behind.size
  have room := inner.room
  exact ⟨behind.sound, (front.later.trans inner.later).trans behind.later, by omega⟩

/-- The emission checks the size before it adds anything. -/
def Checked (n : Nat) (body : Emission E) : Prop :=
  ∀ c awaited, c.Sound n 0 awaited → Safe (Fills n awaited c) (body c)

/-- The emission can begin at sizes up to `m`. -/
def Within (n m : Nat) (body : Emission E) : Prop :=
  ∀ c awaited, c.Sound n 0 awaited → c.size ≤ m → Safe (Reaches n awaited c) (body c)

theorem Checked.within (h : Checked n body) : Within n m body :=
  fun c awaited sound _ => (h c awaited sound).mono fun _ fills => fills.reaches

theorem Within.nothing : Within n m (.ok : Emission E) := fun _ _ sound _ => .refl sound

theorem Within.andThen {first second : Emission E} (h : Within n m first)
    (h' : Within n (5 * 2 ^ 32) second) (le : m ≤ 5 * 2 ^ 32) :
    Within n m fun c => first c >>= second := by
  intro c awaited sound few
  refine (h c awaited sound few).bind fun d front => ?_
  refine (h' d awaited front.sound (front.size_le (Nat.le_trans few le))).mono fun e back => ?_
  exact front.trans back

/-- Behind a check the size is small. -/
theorem Within.checked (h : Within n (2 ^ 32) body) : Checked n fun c => c.checkSize >>= body := by
  intro c awaited sound
  refine sound.checkSize.bind ?_
  rintro c ⟨rfl, few⟩
  refine (h c awaited sound few).mono fun d reaches => ?_
  have room := reaches.room
  exact ⟨reaches.sound, reaches.later, by omega⟩

section

variable [DecidableEq E]

theorem emit_within {st : Statement E} (plain : st.registers = []) (stays : st.target? = none)
    (still : ∀ k, st = .consume k → k = 1) : Within n (2 ^ 32 + 2) (·.emit st) := by
  intro c awaited sound few
  have knows : c.assembler.Knows st := by
    refine ⟨by simp [plain], by simp [stays], ?_⟩
    intro k eq
    rw [still k eq]
    decide
  refine (sound.emit knows (by omega)).mono fun d after => ?_
  have size := after.size
  exact ⟨after.sound, after.later, by omega⟩

theorem atomically_within (inner : Within n (2 ^ 32 + 1) body) :
    Within n (2 ^ 32) (·.atomically body) := by
  intro c awaited sound few
  rcases made : c.makeToken with ⟨intercept, c₁⟩
  rcases made' : c₁.makeToken with ⟨done, c₂⟩
  simp only [atomically, made, made']
  have first := sound.makeToken made
  have front := first.trans (first.sound.makeToken made')
  have size := front.size
  have known : intercept ∈ done :: intercept :: awaited := .tail _ (.head _)
  refine .then front (front.sound.emit_jump (front.sound.made known) rfl rfl (by omega)) ?_
  intro c₃ front
  have size := front.size
  refine (inner c₃ _ front.sound (by omega)).bind fun c₄ inside => ?_
  have room := inside.room
  have sound₄ := inside.sound
  refine (sound₄.emit_jump (sound₄.made known) rfl rfl (by omega)).bind fun c₅ behind => ?_
  have size := behind.size
  refine .then behind (behind.sound.emit_jump (behind.sound.made (.head _)) rfl rfl (by omega)) ?_
  intro c₆ behind
  refine .then behind behind.sound.swap.label fun c₇ behind => ?_
  have size := behind.size
  have fails : Safe _ (c₇.emit .fail) := behind.sound.emit_plain rfl rfl (by simp) (by omega)
  refine .then behind fails fun c₈ behind => ?_
  refine behind.sound.label.mono fun d last => ?_
  exact (Reaches.around front inside (behind.trans last) (by omega) (by omega)).reaches

theorem settleAhead_safe {intercept : Token} (sound : c.Sound n 0 (intercept :: awaited))
    (room : c.size < 6 * 2 ^ 32) (kind : Lookahead) :
    Safe (After n 0 awaited 3 c) (c.settleAhead kind intercept) := by
  cases kind with
  | positive =>
    refine .then sound.still (sound.emit_plain rfl rfl nofun (by omega)) fun c₁ after => ?_
    refine .then after after.sound.label fun c₂ after => ?_
    have size := after.size
    refine .then after (after.sound.emit_plain rfl rfl nofun (by omega)) fun c₃ after => ?_
    have size := after.size
    refine .mono (after.sound.emit_plain rfl rfl nofun (by omega)) fun d last => ?_
    exact after.trans last
  | negative =>
    refine .then sound.still (sound.emit_plain rfl rfl nofun (by omega)) fun c₁ after => ?_
    have size := after.size
    refine .then after (after.sound.emit_plain rfl rfl nofun (by omega)) fun c₂ after => ?_
    refine .then after after.sound.label fun c₃ after => ?_
    have size := after.size
    refine .mono (after.sound.emit_plain rfl rfl nofun (by omega)) fun d last => ?_
    exact after.trans last

theorem lookingAhead_within (kind : Lookahead) (inner : Within n (2 ^ 32 + 2) body) :
    Within n (2 ^ 32) (·.lookingAhead kind body) := by
  intro c awaited sound few
  rcases made : c.makeToken with ⟨success, c₁⟩
  rcases made' : c₁.makeToken with ⟨intercept, c₂⟩
  simp only [lookingAhead, made, made']
  have first := sound.makeToken made
  have front := first.trans (first.sound.makeToken made')
  have size := front.size
  refine .then front (front.sound.emit_jump (front.sound.made (by simp)) rfl rfl (by omega)) ?_
  intro c₃ front
  have size := front.size
  refine .then front (front.sound.emit_jump (front.sound.made (by simp)) rfl rfl (by omega)) ?_
  intro c₄ front
  have size := front.size
  refine (inner c₄ _ front.sound (by omega)).bind fun c₅ inside => ?_
  have room := inside.room
  have sound₅ := inside.sound
  refine (sound₅.emit_jump (sound₅.made (by simp)) rfl rfl (by omega)).bind fun c₆ behind => ?_
  have size := behind.size
  refine .then behind (settleAhead_safe behind.sound (by omega) kind) fun c₇ behind => ?_
  refine behind.sound.label.mono fun d last => ?_
  exact (Reaches.around front inside (behind.trans last) (by omega) (by omega)).reaches

theorem branch_safe {done : Token} (inner : Checked n body) (sound : c.Sound n 0 awaited)
    (member : done ∈ awaited) (few : c.size ≤ 5 * 2 ^ 32) :
    Safe (Fills n awaited c) (c.branch done body) := by
  rcases made : c.makeToken with ⟨next, c₁⟩
  simp only [branch, made]
  have front := sound.makeToken made
  have size := front.size
  refine .then front (front.sound.emit_jump (front.sound.made (by simp)) rfl rfl (by omega)) ?_
  intro c₂ front
  refine (inner c₂ _ front.sound).bind fun c₃ inside => ?_
  have room := inside.room
  have leaves := inside.sound.made (List.mem_cons_of_mem next member)
  refine (inside.sound.emit_jump leaves rfl rfl (by omega)).bind fun c₄ behind => ?_
  refine behind.sound.label.mono fun d last => ?_
  exact inside.around front (behind.trans last) (by omega)

omit [DecidableEq E] in
theorem mandatory_within (inner : Checked n body) (k : Nat) :
    Within n (5 * 2 ^ 32) (mandatory body k) := by
  induction k with
  | zero => exact .nothing
  | succ k ih => exact inner.within.andThen ih (Nat.le_refl _)

/-- A choice is made by one or two instructions, and uses up a register that was made in advance. -/
theorem choose_safe {slack : Nat} {exit : Token} (sound : c.Sound n slack awaited)
    (short : slack ≤ 1) (member : exit ∈ awaited) (room : c.size < 6 * 2 ^ 32) (greedy : Bool) :
    Safe (fun d => ∃ k, 1 ≤ k ∧ k ≤ 2 ∧ After n 0 awaited k c d) (c.choose greedy exit) := by
  have used : slack - 1 = 0 := by omega
  cases greedy with
  | true =>
    refine (sound.emit_jump (sound.made member) rfl rfl (by omega)).mono fun d after => ?_
    rw [used] at after
    exact ⟨1, by omega, by omega, after⟩
  | false =>
    rcases made : c.makeToken with ⟨more, c₁⟩
    have after := sound.makeToken made
    have size := after.size
    simp only [choose, made]
    refine .then after (after.sound.emit_jump (after.sound.made (by simp)) rfl rfl (by omega)) ?_
    intro c₂ after
    rw [used] at after
    have size := after.size
    have leaves := after.sound.made (List.mem_cons_of_mem more member)
    refine .then after (after.sound.emit_jump leaves rfl rfl (by omega)) fun c₃ after => ?_
    refine after.sound.label.mono fun d last => ?_
    exact ⟨2, by omega, by omega, after.trans last⟩

theorem optional_safe {done : Token} (inner : Checked n body) (greedy : Bool) (k : Nat)
    (sound : c.Sound n 0 awaited) (member : done ∈ awaited) (few : c.size ≤ 5 * 2 ^ 32) :
    Safe (Reaches n awaited c) (optional greedy done body k c) := by
  induction k generalizing c with
  | zero => exact .refl sound
  | succ k ih =>
    refine (choose_safe sound (by omega) member (by omega) greedy).bind ?_
    rintro c₁ ⟨j, some_, -, front⟩
    refine (inner c₁ _ front.sound).bind fun c₂ inside => ?_
    have reaches := (inside.around front inside.sound.still (by omega)).reaches
    refine (ih inside.sound (reaches.size_le few)).mono fun d rest => ?_
    exact reaches.trans rest

theorem upTo_within (inner : Checked n body) (greedy : Bool) (k : Nat) :
    Within n (5 * 2 ^ 32) (·.upTo k greedy body) := by
  intro c awaited sound few
  cases k with
  | zero => exact .refl sound
  | succ k =>
    rcases made : c.makeToken with ⟨done, c₁⟩
    have front := sound.makeToken made
    have size := front.size
    simp only [upTo, made, Nat.add_one_ne_zero, if_false]
    refine (optional_safe inner greedy (k + 1) front.sound (by simp) (by omega)).bind ?_
    intro c₂ inside
    exact inside.sound.label.mono fun d behind => inside.inside front behind

/-- The register of the check has been made before. -/
theorem checkedIteration_safe {register : PositionRegister} {exit : Token} (inner : Checked n body)
    (sound : c.Sound n 0 awaited) (member : exit ∈ awaited)
    (made : register.index < c.assembler.nextPosition.index) (few : c.size < 6 * 2 ^ 32) :
    Safe (Fills n awaited c) (c.checkedIteration register exit body) := by
  have has : c.assembler.counts.Has ⟨_, register⟩ := made
  refine .then sound.still (sound.emit_register has rfl rfl (by omega)) fun c₁ front => ?_
  refine (inner c₁ _ front.sound).bind fun c₂ inside => ?_
  have room := inside.room
  refine inside.sound.progressRegister.bind ?_
  rintro ⟨stuck, c₃⟩ ⟨behind, sets⟩
  have size := behind.size
  have later := (front.later.trans inside.later).trans behind.later
  have knows : c₃.assembler.Knows (.comparePosition register stuck) := by
    refine ⟨?_, nofun, nofun⟩
    intro r member
    rcases List.mem_cons.mp member with rfl | member
    · exact Nat.lt_of_lt_of_le made later.positions
    · cases List.mem_singleton.mp member
      exact sets
  refine .then behind.sound.still (behind.sound.emit knows (by omega)) fun c₄ after => ?_
  have size' := after.size
  have knows' : c₄.assembler.Knows (.condBranch stuck exit) := by
    refine ⟨?_, ?_, nofun⟩
    · intro r member
      cases List.mem_singleton.mp member
      exact Nat.lt_of_lt_of_le sets after.later.bools
    · intro token named
      cases named
      exact after.sound.made member
  refine .mono (after.sound.emit knows' (by omega)) fun d last => ?_
  exact inside.around front (behind.trans (after.trans last)) (by omega)

/-- The loop makes its choice before its body, for which a register may have been made in advance. -/
theorem loop_safe {slack : Nat} {iteration : Token → Emission E} (sound : c.Sound n slack awaited)
    (short : slack ≤ 1) (few : c.size ≤ 5 * 2 ^ 32)
    (inner : ∀ exit awaited' d, exit ∈ awaited' → d.Sound n 0 awaited' → d.size ≤ c.size + 2 →
      c.assembler.Later d.assembler → Safe (Fills n awaited' d) (iteration exit d))
    (greedy : Bool) : Safe (Fills n awaited c) (c.loop greedy iteration) := by
  rcases made : c.makeToken with ⟨top, c₁⟩
  rcases made' : c₁.makeToken with ⟨exit, c₂⟩
  simp only [loop, made, made']
  have first := sound.makeToken made
  have second := first.sound.makeToken made'
  refine second.sound.swap.label.bind fun c₃ third => ?_
  have front := first.trans (second.trans third)
  have size := front.size
  have back : top.index < c₃.assembler.tokens.size :=
    Nat.lt_of_lt_of_le (first.sound.made List.mem_cons_self) (second.later.trans third.later).tokens
  refine (choose_safe front.sound short List.mem_cons_self (by omega) greedy).bind ?_
  rintro c₄ ⟨k, some_, few', chosen⟩
  have front := front.trans chosen
  have size := front.size
  refine (inner exit _ c₄ List.mem_cons_self front.sound (by omega) front.later).bind ?_
  intro c₅ inside
  have room := inside.room
  have back := Nat.lt_of_lt_of_le back (chosen.later.trans inside.later).tokens
  refine .then inside.sound.still (inside.sound.emit_jump back rfl rfl (by omega)) fun c₆ behind => ?_
  refine behind.sound.label.mono fun d last => ?_
  exact inside.around front (behind.trans last) (by omega)

theorem star_within (inner : Checked n body) (greedy nullable : Bool) :
    Within n (5 * 2 ^ 32) (·.star greedy nullable body) := by
  intro c awaited sound few
  cases nullable with
  | false =>
    change Safe (Reaches n awaited c) (c.loop greedy fun _ => body)
    refine (loop_safe sound (by omega) few ?_ greedy).mono fun d fills => fills.reaches
    exact fun exit awaited' d _ sound _ _ => inner d awaited' sound
  | true =>
    refine (sound.makePosition (by omega)).bind ?_
    rintro ⟨register, c₁⟩ ⟨front, made⟩
    have size := front.size
    refine (loop_safe front.sound (by omega) (by omega) ?_ greedy).mono fun d fills => ?_
    · intro exit awaited' d member sound size' later
      have made := Nat.lt_of_lt_of_le made later.positions
      exact checkedIteration_safe inner sound member made (by omega)
    · have room := fills.room
      exact ⟨fills.sound, front.later.trans fills.later, .inr (by omega)⟩

theorem repeated_within (inner : Checked n body) (least : Nat) (most : Option Nat)
    (greedy nullable : Bool) :
    Within n (5 * 2 ^ 32) (·.repeated least most greedy nullable body) := by
  refine (mandatory_within inner least).andThen ?_ (Nat.le_refl _)
  cases most with
  | none => exact star_within inner greedy nullable
  | some most => exact upTo_within inner greedy (most - least)

end

end Compilation

end PatternMachine

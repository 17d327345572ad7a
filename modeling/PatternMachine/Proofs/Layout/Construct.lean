import PatternMachine.Compilation.Construct
import PatternMachine.Proofs.Layout.Emission
import PatternMachine.Proofs.Layout.Shape

/-! Each construct gives its code its shape, whatever the body emits. -/
namespace PatternMachine.Compilation

variable {E : Type}

/-- Once `made` position registers exist, everything the emission adds has the shape in the finished
program, and sets no register below `least`. -/
def Emits (final : Compilation E) (p : Program E) (least made : Nat) (body : Emission E)
    (shape : Shape) : Prop :=
  ∀ c d, made ≤ c.assembler.nextPosition.index → body c = .ok d →
    Adds final p least c d ∧ (d.Extends final → c.Fits → shape c.size d.size)

/-- A shape that depends on where a token leads. -/
def Leading (final : Compilation E) (token : Token) (shape : Nat → Shape) : Shape := fun lo hi =>
  ∀ address, final.assembler.address? token = some ⟨address⟩ → shape address lo hi

variable {c d final : Compilation E} {p : Program E} {least made : Nat}

theorem nothing_emits : Emits final p least made .ok .nothing := by
  intro c d _ run
  cases run
  exact ⟨.refl c, fun _ _ => rfl⟩

theorem andThen_emits {first second : Emission E} {shape shape' : Shape}
    (h : Emits final p least made first shape) (h' : Emits final p least made second shape') :
    Emits final p least made (fun c => do second (← first c)) (.andThen shape shape') := by
  intro c d le run
  obtain ⟨c₁, front, back⟩ := bind_eq_ok.mp run
  obtain ⟨adds₁, inside₁⟩ := h _ _ le front
  obtain ⟨adds₂, inside₂⟩ := h' _ _ (Nat.le_trans le adds₁.assembler.positions) back
  refine ⟨adds₁.trans adds₂, fun grows fits => ⟨c₁.size, ?_, ?_⟩⟩
  · exact inside₁ (adds₂.toExtends.trans grows) fits
  · exact inside₂ grows (adds₁.fits fits)

theorem mandatory_emits {body : Emission E} {shape : Shape}
    (h : Emits final p least made body shape) (n : Nat) :
    Emits final p least made (mandatory body n) (.mandatory shape n) := by
  induction n with
  | zero => exact nothing_emits
  | succ n ih => exact andThen_emits h ih

section

variable [DecidableEq E] (assembled : final.assembler.assemble = .ok p)

include assembled

theorem emit_quiet {st : Statement E} (h : c.emit st = .ok d)
    (quiet : ∀ register, st ≠ .movePosition register) :
    Adds final p least c d ∧ d.size = c.size + 1 :=
  emit_adds assembled h fun register eq => absurd eq (quiet register)

theorem single_emits {st : Statement E} {means : Operation → Prop}
    (quiet : ∀ register, st ≠ .movePosition register)
    (h : ∀ op, st.Means p final.assembler.address? op → means op) :
    Emits final p least made (·.emit st) (.single p means) := by
  intro c d _ run
  obtain ⟨adds, size⟩ := emit_quiet assembled run quiet
  refine ⟨adds, fun grows _ => ⟨size, ?_⟩⟩
  obtain ⟨op, place, meaning⟩ := emit_stands assembled run grows
  exact ⟨op, place, h op meaning⟩

theorem atomically_emits {body : Emission E} {shape : Shape}
    (h : Emits final p least made body shape) :
    Emits final p least made (·.atomically body) (.atomic p shape) := by
  intro c d le run
  rcases token : c.makeToken with ⟨intercept, a⟩
  rcases token' : a.makeToken with ⟨done, b⟩
  simp only [atomically, token, token'] at run
  obtain ⟨c₁, save, run⟩ := bind_eq_ok.mp run
  obtain ⟨c₂, inner, run⟩ := bind_eq_ok.mp run
  obtain ⟨c₃, clear, run⟩ := bind_eq_ok.mp run
  obtain ⟨c₄, leave, run⟩ := bind_eq_ok.mp run
  obtain ⟨c₅, caught, run⟩ := bind_eq_ok.mp run
  obtain ⟨c₆, fail, finish⟩ := bind_eq_ok.mp run
  obtain ⟨adds_a, size_a⟩ := makeToken_adds token
  obtain ⟨adds_b, size_b⟩ := makeToken_adds token'
  obtain ⟨adds₁, size₁⟩ := emit_quiet assembled save (by simp)
  have front : Adds final p least c c₁ := (adds_a.trans adds_b).trans adds₁
  obtain ⟨adds₂, inside⟩ := h _ _ (Nat.le_trans le front.assembler.positions) inner
  obtain ⟨adds₃, size₃⟩ := emit_quiet assembled clear (by simp)
  obtain ⟨adds₄, size₄⟩ := emit_quiet assembled leave (by simp)
  obtain ⟨adds₅, size₅, bound⟩ := label_adds caught
  obtain ⟨adds₆, size₆⟩ := emit_quiet assembled fail (by simp)
  obtain ⟨adds_d, size_d, bound_d⟩ := label_adds finish
  have back : Adds final p least _ d := adds₃.trans (adds₄.trans (adds₅.trans (adds₆.trans adds_d)))
  refine ⟨front.trans (adds₂.trans back), fun grows fits => ?_⟩
  have grows₆ := adds_d.toExtends.trans grows
  have grows₅ := adds₆.toExtends.trans grows₆
  have grows₄ := adds₅.toExtends.trans grows₅
  have grows₃ := adds₄.toExtends.trans grows₄
  have grows₂ := adds₃.toExtends.trans grows₃
  have caught_at := grows₅.assembler.address _ _ bound
  have done_at := grows.assembler.address _ _ bound_d
  have saved := Statement.read_target (emit_stands assembled save (adds₂.toExtends.trans grows₂))
    caught_at
  have cleared := Statement.read_target (emit_stands assembled clear grows₃) caught_at
  have left := Statement.read_target (emit_stands assembled leave grows₄) done_at
  obtain ⟨_, failed, rfl⟩ := emit_stands assembled fail grows₆
  have body := inside grows₂ (front.fits fits)
  simp only [size_a, size_b, size₁, size₃, size₄, size₅, size₆, size_d] at *
  exact ⟨c₂.size, saved, body, cleared, left, failed, rfl⟩

theorem settleAhead_adds {kind : Lookahead} {intercept : Token}
    (h : c.settleAhead kind intercept = .ok d) :
    Adds final p least c d ∧ d.size = c.size + 3 ∧
      (d.Extends final → ∀ mid, c.size = mid + 1 →
        final.assembler.address? intercept = some ⟨Shape.interception kind mid⟩ ∧
          Shape.settled p kind mid) := by
  cases kind with
  | positive =>
    obtain ⟨c₁, first, run⟩ := bind_eq_ok.mp h
    obtain ⟨c₂, caught, run⟩ := bind_eq_ok.mp run
    obtain ⟨c₃, second, third⟩ := bind_eq_ok.mp run
    obtain ⟨adds₁, size₁⟩ := emit_quiet assembled first (by simp)
    obtain ⟨adds₂, size₂, bound⟩ := label_adds caught
    obtain ⟨adds₃, size₃⟩ := emit_quiet assembled second (by simp)
    obtain ⟨adds₄, size₄⟩ := emit_quiet assembled third (by simp)
    refine ⟨adds₁.trans (adds₂.trans (adds₃.trans adds₄)), by omega, fun grows mid here => ?_⟩
    have grows₃ := adds₄.toExtends.trans grows
    have grows₂ := adds₃.toExtends.trans grows₃
    obtain ⟨_, one, rfl⟩ := emit_stands assembled first (adds₂.toExtends.trans grows₂)
    obtain ⟨_, two, rfl⟩ := emit_stands assembled second grows₃
    obtain ⟨_, three, rfl⟩ := emit_stands assembled third grows
    have caught_at := grows₂.assembler.address _ _ bound
    simp only [size₃, size₂, size₁, here] at one two three caught_at
    exact ⟨caught_at, one, two, three⟩
  | negative =>
    obtain ⟨c₁, first, run⟩ := bind_eq_ok.mp h
    obtain ⟨c₂, second, run⟩ := bind_eq_ok.mp run
    obtain ⟨c₃, caught, third⟩ := bind_eq_ok.mp run
    obtain ⟨adds₁, size₁⟩ := emit_quiet assembled first (by simp)
    obtain ⟨adds₂, size₂⟩ := emit_quiet assembled second (by simp)
    obtain ⟨adds₃, size₃, bound⟩ := label_adds caught
    obtain ⟨adds₄, size₄⟩ := emit_quiet assembled third (by simp)
    refine ⟨adds₁.trans (adds₂.trans (adds₃.trans adds₄)), by omega, fun grows mid here => ?_⟩
    have grows₃ := adds₄.toExtends.trans grows
    have grows₂ := adds₃.toExtends.trans grows₃
    obtain ⟨_, one, rfl⟩ := emit_stands assembled first (adds₂.toExtends.trans grows₂)
    obtain ⟨_, two, rfl⟩ := emit_stands assembled second grows₂
    obtain ⟨_, three, rfl⟩ := emit_stands assembled third grows
    have caught_at := grows₃.assembler.address _ _ bound
    simp only [size₃, size₂, size₁, here] at one two three caught_at
    exact ⟨caught_at, one, two, three⟩

theorem lookingAhead_emits {kind : Lookahead} {body : Emission E} {shape : Shape}
    (h : Emits final p least made body shape) :
    Emits final p least made (·.lookingAhead kind body) (.lookahead p kind shape) := by
  intro c d le run
  rcases token : c.makeToken with ⟨success, a⟩
  rcases token' : a.makeToken with ⟨intercept, b⟩
  simp only [lookingAhead, token, token'] at run
  obtain ⟨c₁, save, run⟩ := bind_eq_ok.mp run
  obtain ⟨c₂, save', run⟩ := bind_eq_ok.mp run
  obtain ⟨c₃, inner, run⟩ := bind_eq_ok.mp run
  obtain ⟨c₄, clear, run⟩ := bind_eq_ok.mp run
  obtain ⟨c₅, settle, finish⟩ := bind_eq_ok.mp run
  obtain ⟨adds_a, size_a⟩ := makeToken_adds token
  obtain ⟨adds_b, size_b⟩ := makeToken_adds token'
  obtain ⟨adds₁, size₁⟩ := emit_quiet assembled save (by simp)
  obtain ⟨adds₂, size₂⟩ := emit_quiet assembled save' (by simp)
  have front : Adds final p least c c₂ := (adds_a.trans adds_b).trans (adds₁.trans adds₂)
  obtain ⟨adds₃, inside⟩ := h _ _ (Nat.le_trans le front.assembler.positions) inner
  obtain ⟨adds₄, size₄⟩ := emit_quiet assembled clear (by simp)
  obtain ⟨adds₅, size₅, settles⟩ := settleAhead_adds assembled settle
  obtain ⟨adds_d, size_d, bound⟩ := label_adds finish
  have back : Adds final p least _ d := adds₄.trans (adds₅.trans adds_d)
  refine ⟨front.trans (adds₃.trans back), fun grows fits => ?_⟩
  have grows₅ := adds_d.toExtends.trans grows
  have grows₄ := adds₅.toExtends.trans grows₅
  have grows₃ := adds₄.toExtends.trans grows₄
  have grows₂ := adds₃.toExtends.trans grows₃
  obtain ⟨caught_at, settled⟩ := settles grows₅ c₃.size size₄
  have success_at := grows.assembler.address _ _ bound
  have saved := Statement.read_target (emit_stands assembled save (adds₂.toExtends.trans grows₂))
    success_at
  have saved' := Statement.read_target (emit_stands assembled save' grows₂) caught_at
  have cleared := Statement.read_target (emit_stands assembled clear grows₄) caught_at
  have body := inside grows₃ (front.fits fits)
  simp only [size_a, size_b, size₁, size₂, size₄, size₅, size_d] at saved saved' cleared body ⊢
  exact ⟨c₃.size, saved, saved', body, cleared, settled, rfl⟩

theorem branch_emits {done : Token} {body : Emission E} {shape : Shape}
    (h : Emits final p least made body shape) :
    Emits final p least made (·.branch done body)
      (final.Leading done fun exit => .branch p exit shape) := by
  intro c d le run
  rcases token : c.makeToken with ⟨next, a⟩
  simp only [branch, token] at run
  obtain ⟨c₁, save, run⟩ := bind_eq_ok.mp run
  obtain ⟨c₂, inner, run⟩ := bind_eq_ok.mp run
  obtain ⟨c₃, leave, finish⟩ := bind_eq_ok.mp run
  obtain ⟨adds_a, size_a⟩ := makeToken_adds token
  obtain ⟨adds₁, size₁⟩ := emit_quiet assembled save (by simp)
  have front : Adds final p least c c₁ := adds_a.trans adds₁
  obtain ⟨adds₂, inside⟩ := h _ _ (Nat.le_trans le front.assembler.positions) inner
  obtain ⟨adds₃, size₃⟩ := emit_quiet assembled leave (by simp)
  obtain ⟨adds_d, size_d, bound⟩ := label_adds finish
  refine ⟨front.trans (adds₂.trans (adds₃.trans adds_d)), fun grows fits exit done_at => ?_⟩
  have grows₃ := adds_d.toExtends.trans grows
  have grows₂ := adds₃.toExtends.trans grows₃
  have next_at := grows.assembler.address _ _ bound
  have saved := Statement.read_target (emit_stands assembled save (adds₂.toExtends.trans grows₂))
    next_at
  have left := Statement.read_target (emit_stands assembled leave grows₃) done_at
  have body := inside grows₂ (front.fits fits)
  simp only [size_a, size₁, size₃, size_d] at *
  exact ⟨c₂.size, saved, body, left, rfl⟩

theorem choose_emits {greedy : Bool} {exit : Token} :
    Emits final p least made (·.choose greedy exit)
      (final.Leading exit fun exit => .choice p greedy exit) := by
  intro c d _ run
  cases greedy with
  | true =>
    obtain ⟨adds, size⟩ := emit_quiet assembled run (by simp)
    refine ⟨adds, fun grows _ exit exit_at => ?_⟩
    exact ⟨Statement.read_target (emit_stands assembled run grows) exit_at, size⟩
  | false =>
    rcases token : c.makeToken with ⟨more, a⟩
    simp only [choose, token] at run
    obtain ⟨c₁, save, run⟩ := bind_eq_ok.mp run
    obtain ⟨c₂, leave, finish⟩ := bind_eq_ok.mp run
    obtain ⟨adds_a, size_a⟩ := makeToken_adds token
    obtain ⟨adds₁, size₁⟩ := emit_quiet assembled save (by simp)
    obtain ⟨adds₂, size₂⟩ := emit_quiet assembled leave (by simp)
    obtain ⟨adds_d, size_d, bound⟩ := label_adds finish
    refine ⟨adds_a.trans (adds₁.trans (adds₂.trans adds_d)), fun grows _ exit exit_at => ?_⟩
    have grows₂ := adds_d.toExtends.trans grows
    have more_at := grows.assembler.address _ _ bound
    have saved := Statement.read_target (emit_stands assembled save (adds₂.toExtends.trans grows₂))
      more_at
    have left := Statement.read_target (emit_stands assembled leave grows₂) exit_at
    simp only [size_a, size₁, size₂, size_d] at *
    exact ⟨saved, left, rfl⟩

theorem optional_emits {greedy : Bool} {done : Token} {body : Emission E} {shape : Shape}
    (h : Emits final p least made body shape) (n : Nat) :
    Emits final p least made (optional greedy done body n)
      (final.Leading done fun done => .optional p greedy done shape n) := by
  induction n with
  | zero =>
    intro c d _ run
    cases run
    exact ⟨.refl c, fun _ _ _ _ => rfl⟩
  | succ n ih =>
    intro c d le run
    obtain ⟨adds, inside⟩ := andThen_emits (choose_emits assembled) (andThen_emits h ih) c d le run
    refine ⟨adds, fun grows fits done_at bound => ?_⟩
    obtain ⟨first, chosen, second, body, rest⟩ := inside grows fits
    exact ⟨first, chosen _ bound, second, body, rest _ bound⟩

theorem upTo_emits {greedy : Bool} {body : Emission E} {shape : Shape}
    (h : Emits final p least made body shape) (n : Nat) :
    Emits final p least made (·.upTo n greedy body) (.upTo p n greedy shape) := by
  intro c d le run
  cases n with
  | zero =>
    cases run
    exact ⟨.refl c, fun _ _ => rfl⟩
  | succ n =>
    rcases token : c.makeToken with ⟨done, a⟩
    simp only [upTo, token] at run
    obtain ⟨c₁, inner, finish⟩ := bind_eq_ok.mp run
    obtain ⟨adds_a, size_a⟩ := makeToken_adds token
    obtain ⟨adds₁, inside⟩ := optional_emits assembled h (n + 1) a c₁
      (Nat.le_trans le adds_a.assembler.positions) inner
    obtain ⟨adds_d, size_d, bound⟩ := label_adds finish
    refine ⟨adds_a.trans (adds₁.trans adds_d), fun grows fits => ?_⟩
    have optional := inside (adds_d.toExtends.trans grows) (adds_a.fits fits) _
      (grows.assembler.address _ _ bound)
    simp only [size_a, size_d] at *
    exact optional

/-- The register is the latest one made, so the body sets others only. -/
theorem checkedIteration_emits {register : PositionRegister} {exit : Token} {body : Emission E}
    {shape : Shape} (h : ∀ n, Emits final p n n body shape) :
    Emits final p register.index (register.index + 1) (·.checkedIteration register exit body)
      (final.Leading exit fun exit => .iteration p register exit shape) := by
  intro c d le run
  obtain ⟨c₁, start, run⟩ := bind_eq_ok.mp run
  obtain ⟨c₂, inner, run⟩ := bind_eq_ok.mp run
  obtain ⟨⟨stuck, c₃⟩, made, run⟩ := bind_eq_ok.mp run
  obtain ⟨c₄, compare, leave⟩ := bind_eq_ok.mp run
  obtain ⟨adds₁, size₁⟩ : Adds final p register.index c c₁ ∧ c₁.size = c.size + 1 :=
    emit_adds assembled start (by simp)
  have le₁ := Nat.le_trans le adds₁.assembler.positions
  obtain ⟨adds₂, inside⟩ := h _ _ _ le₁ inner
  obtain ⟨adds₃, size₃, fitting⟩ := progressRegister_adds made
  obtain ⟨adds₄, size₄⟩ := emit_quiet assembled compare (by simp)
  obtain ⟨adds_d, size_d⟩ := emit_quiet assembled leave (by simp)
  have adds₂' : Adds final p register.index c₁ c₂ := adds₂.mono (Nat.le_succ _)
  refine ⟨adds₁.trans (adds₂'.trans (adds₃.trans (adds₄.trans adds_d))),
    fun grows fits exit exit_at => ?_⟩
  have grows₄ := adds_d.toExtends.trans grows
  have grows₃ := adds₄.toExtends.trans grows₄
  have grows₂ := adds₃.toExtends.trans grows₃
  have grows₁ := adds₂.toExtends.trans grows₂
  obtain ⟨_, started, rfl⟩ := emit_stands assembled start grows₁
  obtain ⟨_, compared, rfl⟩ := emit_stands assembled compare grows₄
  have left := Statement.read_target (emit_stands assembled leave grows) exit_at
  have body := inside grows₂ (adds₁.fits fits)
  have fit := fitting (adds₂.fits (adds₁.fits fits))
  have apart : ¬Shape.Sets p c₁.size c₂.size register := by
    rintro ⟨i, above, below, known⟩
    exact absurd (adds₂.sets grows₂ i register above below known) (by omega)
  obtain ⟨-, -, -, -, bools, positions, -⟩ := Assembler.assemble_spec assembled
  simp only [size₁, size₃, size₄, size_d] at *
  refine ⟨c₂.size, stuck, started, body, compared, left, rfl, ?_, ?_, ?_⟩
  · rw [positions]
    exact Nat.lt_of_lt_of_le le₁ grows₁.assembler.positions
  · rw [bools]
    exact Nat.lt_of_lt_of_le fit grows₃.assembler.bools
  · exact apart

theorem loop_emits {greedy : Bool} {iteration : Token → Emission E} {shape : Nat → Shape}
    (h : ∀ exit, Emits final p least made (iteration exit) (final.Leading exit shape)) :
    Emits final p least made (·.loop greedy iteration) (.loop p greedy shape) := by
  intro c d le run
  rcases token : c.makeToken with ⟨top, a⟩
  rcases token' : a.makeToken with ⟨exit, b⟩
  simp only [loop, token, token'] at run
  obtain ⟨c₁, mark, run⟩ := bind_eq_ok.mp run
  obtain ⟨c₂, chosen, run⟩ := bind_eq_ok.mp run
  obtain ⟨c₃, inner, run⟩ := bind_eq_ok.mp run
  obtain ⟨c₄, again, finish⟩ := bind_eq_ok.mp run
  obtain ⟨adds_a, size_a⟩ := makeToken_adds token
  obtain ⟨adds_b, size_b⟩ := makeToken_adds token'
  obtain ⟨adds₁, size₁, bound_top⟩ := label_adds mark
  have front : Adds final p least c c₁ := (adds_a.trans adds_b).trans adds₁
  have le₁ := Nat.le_trans le front.assembler.positions
  obtain ⟨adds₂, choosing⟩ := choose_emits assembled c₁ c₂ le₁ chosen
  have le₂ := Nat.le_trans le₁ adds₂.assembler.positions
  obtain ⟨adds₃, inside⟩ := h exit c₂ c₃ le₂ inner
  obtain ⟨adds₄, size₄⟩ := emit_quiet assembled again (by simp)
  obtain ⟨adds_d, size_d, bound⟩ := label_adds finish
  refine ⟨front.trans (adds₂.trans (adds₃.trans (adds₄.trans adds_d))), fun grows fits => ?_⟩
  have grows₄ := adds_d.toExtends.trans grows
  have grows₃ := adds₄.toExtends.trans grows₄
  have grows₂ := adds₃.toExtends.trans grows₃
  have exit_at := grows.assembler.address _ _ bound
  have top_at := (adds₂.toExtends.trans grows₂).assembler.address _ _ bound_top
  have fits₁ := front.fits fits
  have choice := choosing grows₂ fits₁ _ exit_at
  have body := inside grows₃ (adds₂.fits fits₁) _ exit_at
  have back := Statement.read_target (emit_stands assembled again grows₄) top_at
  simp only [size_a, size_b, size₁, size₄, size_d] at *
  exact ⟨c₂.size, c₃.size, choice, body, back, rfl⟩

theorem star_emits {greedy nullable : Bool} {body : Emission E} {shape : Shape}
    (h : ∀ n, Emits final p n n body shape) (n : Nat) :
    Emits final p n n (·.star greedy nullable body) (.star p greedy nullable shape) := by
  intro c d le run
  cases nullable with
  | false =>
    have once : ∀ exit, Emits final p n n body (final.Leading exit fun _ => shape) := by
      intro _ c d le run
      obtain ⟨adds, inside⟩ := h n c d le run
      exact ⟨adds, fun grows fits _ _ => inside grows fits⟩
    exact loop_emits assembled once c d le run
  | true =>
    obtain ⟨⟨register, c₁⟩, made, run⟩ := bind_eq_ok.mp run
    obtain ⟨adds₁, size₁, eq, next⟩ := makePosition_adds made
    obtain ⟨adds, inside⟩ := loop_emits assembled
      (fun exit => checkedIteration_emits assembled h) c₁ d (Nat.le_of_eq next.symm) run
    have above : n ≤ register.index := eq ▸ le
    refine ⟨adds₁.trans (adds.mono above), fun grows fits => ?_⟩
    have loops := inside grows (adds₁.fits fits)
    rw [size₁] at loops
    exact ⟨register, loops⟩

theorem repeated_emits {greedy nullable : Bool} {body : Emission E} {shape : Shape} {low : Nat}
    {most : Option Nat} (h : ∀ n, Emits final p n n body shape) (n : Nat) :
    Emits final p n n (·.repeated low most greedy nullable body)
      (.repeated p low most greedy nullable shape) := by
  cases most with
  | none => exact andThen_emits (mandatory_emits (h n) low) (star_emits assembled h n)
  | some most => exact andThen_emits (mandatory_emits (h n) low) (upTo_emits assembled (h n) _)

end

end PatternMachine.Compilation

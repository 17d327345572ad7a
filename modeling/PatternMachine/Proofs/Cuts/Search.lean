import PatternMachine.Proofs.Cuts.Catching
import PatternMachine.Proofs.Machine.Positions

/-! Atomic groups, possessive quantifiers and assertions cut their own save points. What the
`CLEAR_THROUGH` of a construct removes was pushed since the activation that executes it has entered the
construct for the last time, and all that was pushed before stays. So a construct that succeeds is left with
the save points that it was entered with, and an assertion with all that a save point restores. -/
namespace PatternMachine

variable {E : Type} [DecidableEq E] {p : Program E} {s : Search E} {entries : Address → Prop}

/-! ### Machines and their threads -/

namespace Tracks

variable {m : Machine} {r : SnapshotMachine}

theorem pc (h : Tracks m r) : m.pc = r.thread.config.pc := congrArg Configuration.pc h.config

theorem position (h : Tracks m r) : m.position = r.thread.config.position :=
  congrArg Configuration.position h.config

theorem registers (h : Tracks m r) : m.registers = r.thread.config.registers :=
  congrArg Configuration.registers h.config

theorem callStack (h : Tracks m r) : m.callStack = r.thread.config.callStack :=
  congrArg Configuration.callStack h.config

theorem height (h : Tracks m r) : m.savePoints.items.length = r.thread.savePoints.length :=
  h.restores.length_eq

end Tracks

namespace Search

theorem Comes.unique {n : Nat} {t t' : Thread} (h : s.Comes n t) (h' : s.Comes n t') : t = t' :=
  Move.next.inj (h.symm.trans h')

/-- A machine in progress is where its thread has come. -/
theorem runFor_comes {n : Nat} {m : Machine} (ran : s.runFor n s.start = .next m)
    (live : m.status = .inProgress) : ∃ r, Tracks m r ∧ s.Comes n r.thread := by
  induction n generalizing m with
  | zero =>
    cases ran
    exact ⟨_, .start s, after_zero _⟩
  | succ n ih =>
    obtain ⟨m₀, ran₀, live₀⟩ := runFor_before ran live (Nat.le_succ n)
    obtain ⟨r, tracks, comes⟩ := ih ran₀ live₀
    have cycled : s.cycle m₀ = .next m := by rw [← runFor_one live₀, ← runFor_add ran₀, ran]
    obtain ⟨r', tracks', moved⟩ := cycle_thread tracks live₀ cycled live
    exact ⟨r', tracks', after_succ.mpr ⟨_, comes, moved⟩⟩

/-- A run that is still in progress has come by wherever its thread has. -/
theorem Comes.machine {j n : Nat} {m : Machine} {t : Thread} (comes : s.Comes j t)
    (ran : s.runFor n s.start = .next m) (live : m.status = .inProgress) (le : j ≤ n) :
    ∃ mⱼ r, s.runFor j s.start = .next mⱼ ∧ mⱼ.status = .inProgress ∧ Tracks mⱼ r ∧
      r.thread = t := by
  obtain ⟨mⱼ, ranⱼ, liveⱼ⟩ := runFor_before ran live le
  obtain ⟨r, tracks, comes'⟩ := runFor_comes ranⱼ liveⱼ
  exact ⟨mⱼ, r, ranⱼ, liveⱼ, tracks, comes'.unique comes⟩

/-- A machine of a run, with the thread that it follows. -/
theorem runFor_thread {j n : Nat} {m mⱼ : Machine} (ran : s.runFor n s.start = .next m)
    (live : m.status = .inProgress) (le : j ≤ n) (ranⱼ : s.runFor j s.start = .next mⱼ) :
    ∃ r, Tracks mⱼ r ∧ s.Comes j r.thread := by
  obtain ⟨_, ran₀, liveⱼ⟩ := runFor_before ran live le
  cases ranⱼ.symm.trans ran₀
  exact runFor_comes ranⱼ liveⱼ

end Search

/-! ### Activations -/

/-- The activation of a construct that the machine `m` is in after `n` cycles. It came to the construct with
`entry`, in cycle `k`, and saved with `saving` where the body is caught. It has not returned since, and has
not done so again. -/
structure Search.Activation (s : Search E) (e : Enclosure) (k n : Nat) (entry saving m : Machine) :
    Prop where
  entered : s.runFor k s.start = .next entry
  opens : s.program.Opens entry.pc.index e
  saved : s.runFor (k + e.lead) s.start = .next saving
  catches : s.program.operation? saving.pc.index = some (.save e.catching)
  before : k + e.lead < n
  calls : entry.callStack = m.callStack ∧ saving.callStack = m.callStack
  stays : ∀ j mⱼ, k + e.lead < j → j ≤ n → s.runFor j s.start = .next mⱼ →
    m.callStack.items <:+ mⱼ.callStack.items
  latest : ∀ j mⱼ, k + e.lead < j → j < n → s.runFor j s.start = .next mⱼ →
    s.program.operation? mⱼ.pc.index = some (.save e.catching) → mⱼ.callStack ≠ m.callStack

/-- The machine has left the construct that it had entered with `entry`. -/
structure Machine.Leaves (m entry : Machine) (e : Enclosure) : Prop where
  live : m.status = .inProgress
  pc : m.pc = e.done
  saved : m.savePoints = entry.savePoints
  calls : m.callStack = entry.callStack
  restored : ∀ kind mid, e = .assertion kind mid →
    m.position = entry.position ∧ m.registers = entry.registers

/-- After `n` cycles the machine `m` executes a `CLEAR_THROUGH`. It is in an activation of the construct that
the instruction belongs to, and removes what has been pushed since this activation saved where the body is
caught, this save point included. What it leaves was pushed before. -/
def Search.ClearsOwn (s : Search E) (n : Nat) (m : Machine) (a : Address) : Prop :=
  ∃ e k entry saving above sp m', s.program.Closes e ∧ e.mid = m.pc.index ∧ e.catching = a ∧
    s.Activation e k n entry saving m ∧ sp.resume = a ∧
    s.PushedIn (k + e.lead) n sp saving.savePoints.items ∧
    s.SplitsAt (k + e.lead) n m (above ++ [sp]) saving.savePoints.items ∧
    s.runFor (n + 1) s.start = .next m' ∧ ((m'.status = .failed ∧ m'.exceeded.isSome) ∨
      (m'.status = .inProgress ∧ m'.savePoints = saving.savePoints ∧ m'.config = m.config.advance))

/-- After `n` cycles the machine `m`, which is at the exit of a construct, leaves it with the save points
that its activation entered it with, and an assertion with everything else, too. -/
def Search.LeavesOwn (s : Search E) (n : Nat) (m : Machine) (e : Enclosure) : Prop :=
  ∃ k entry saving m', s.Activation e k n entry saving m ∧ s.runFor (n + 1) s.start = .next m' ∧
    ((m'.status = .failed ∧ m'.exceeded.isSome) ∨ m'.Leaves entry e)

namespace Search.Catches

variable {e : Enclosure} {k n : Nat} {entry : Thread} {sn : Snapshot}

theorem callStack (catches : s.Catches e k n entry sn) :
    sn.callStack = entry.config.callStack := by
  rw [catches.caught]
  exact entry.lead_callStack e

/-- The save point that catches is among those of every thread that has come since. -/
theorem member (catches : s.Catches e k n entry sn) {j : Nat} {t : Thread}
    (since : k + e.lead < j) (le : j ≤ n) (comes : s.Comes j t) : sn ∈ t.savePoints :=
  (catches.stays j t since le comes).subset List.mem_cons_self

theorem resume (catches : s.Catches e k n entry sn) : sn.resume = e.catching := by
  rw [catches.caught]
  rfl

/-- Where the thread has entered, the machine has. -/
theorem activation (catches : s.Catches e k n entry sn) (staged : s.program.WellStaged entries)
    (closes : s.program.Closes e) {n' : Nat} {m : Machine} (ran : s.runFor n' s.start = .next m)
    (live : m.status = .inProgress) (le : n ≤ n') (le' : n' ≤ n + 1)
    (calls : sn.callStack.items = m.callStack.items) :
    ∃ entryₘ savingₘ r r', s.Activation e k n' entryₘ savingₘ m ∧ Tracks entryₘ r ∧
      r.thread = entry ∧ Tracks savingₘ r' ∧ r'.thread = entry.lead e := by
  have before := catches.before
  obtain ⟨entryₘ, r, entered, -, tracks, rfl⟩ := catches.entered.machine ran live (by omega)
  obtain ⟨savingₘ, r', saved, -, tracks', same⟩ := catches.saves.machine ran live (by omega)
  have calls : sn.callStack = m.callStack := Stack.ext calls
  have entryCalls : r.thread.config.callStack = m.callStack := catches.callStack.symm.trans calls
  have savingCalls : r'.thread.config.callStack = m.callStack := by
    rw [same, r.thread.lead_callStack, entryCalls]
  refine ⟨entryₘ, savingₘ, r, r', ⟨entered, ?_, saved, ?_, by omega, ⟨?_, ?_⟩, ?_, ?_⟩,
    tracks, rfl, tracks', same⟩
  · rw [tracks.pc]
    exact catches.opens
  · rw [tracks'.pc, same]
    exact catches.catches
  · exact tracks.callStack.trans entryCalls
  · exact tracks'.callStack.trans savingCalls
  · intro j mⱼ since le ranⱼ
    rcases Nat.lt_or_ge n j with behind | inside
    · -- The one further cycle.
      cases Nat.le_antisymm le (Nat.le_trans le' behind)
      rw [ran] at ranⱼ
      cases ranⱼ
      exact List.suffix_refl _
    · obtain ⟨rⱼ, tracksⱼ, comes⟩ := runFor_thread ran live le ranⱼ
      obtain ⟨_, ⟨⟨σ, outer, waits⟩, -⟩, -⟩ := comes.encloses staged
      have suffix := waits.suffix closes (catches.member since inside comes) catches.resume
      rw [tracksⱼ.callStack, ← calls]
      exact suffix
  · intro j mⱼ since lt ranⱼ saves same
    obtain ⟨rⱼ, tracksⱼ, comes⟩ := runFor_thread ran live (Nat.le_of_lt lt) ranⱼ
    obtain ⟨_, ⟨⟨σ, outer, waits⟩, -⟩, -⟩ := comes.encloses staged
    have inside : j ≤ n := by omega
    rw [tracksⱼ.pc] at saves
    refine waits.apart closes (catches.member since inside comes) catches.resume saves ?_
    rw [calls, ← same, tracksⱼ.callStack]

/-- What catches on the stack of the machine was pushed in the same cycle. -/
theorem pushedIn (catches : s.Catches e k n entry sn) {m saving : Machine}
    (ran : s.runFor n s.start = .next m) (live : m.status = .inProgress)
    (saved : s.runFor (k + e.lead) s.start = .next saving) :
    ∃ sp, sp.resume = e.catching ∧ s.PushedIn (k + e.lead) n sp saving.savePoints.items := by
  have before := catches.before
  obtain ⟨r, tracks, comes⟩ := runFor_comes ran live
  obtain ⟨r', tracks', comes'⟩ := runFor_thread ran live (Nat.le_of_lt before) saved
  have same : r'.thread = entry.lead e := comes'.unique catches.saves
  obtain ⟨above, eq⟩ := catches.stays n _ before (Nat.le_refl n) comes
  have points := tracks.savePoints
  have eq : above ++ sn :: (entry.lead e).savePoints = r.savePoints := eq
  rw [← eq, List.map_append, List.map_eq_append_iff] at points
  obtain ⟨aboveₘ, rest, splits, -, restEq⟩ := points
  rw [List.map_cons, List.map_eq_cons_iff] at restEq
  obtain ⟨sp, below, rfl, point, belowEq⟩ := restEq
  have resume : sp.resume = e.catching := (congrArg Prod.fst point).trans catches.resume
  have depth : below.length = (entry.lead e).savePoints.length := by
    simpa using congrArg List.length belowEq
  have depth' : saving.savePoints.items.length = (entry.lead e).savePoints.length := by
    rw [← same]
    exact tracks'.height
  obtain ⟨k', pushed⟩ := exists_pushedIn ran live splits
  obtain ⟨mₖ, ranₖ, savedₖ⟩ := pushed.pushed
  have there : k' = k + e.lead := by
    rcases Nat.lt_trichotomy k' (k + e.lead) with earlier | here | later
    · have le := (pushed.stays _ _ earlier (Nat.le_of_lt before) saved).length_le
      rw [List.length_cons] at le
      omega
    · exact here
    · obtain ⟨rₖ, tracksₖ, comesₖ⟩ := runFor_thread ran live (Nat.le_of_lt pushed.before) ranₖ
      have le := (catches.stays _ _ later (Nat.le_of_lt pushed.before) comesₖ).length_le
      rw [← tracksₖ.height, savedₖ, List.length_cons] at le
      omega
  subst there
  rw [saved] at ranₖ
  cases ranₖ
  exact ⟨sp, resume, savedₖ ▸ pushed⟩

end Search.Catches

/-! ### Leaving -/

namespace Search

/-- A cycle after which the stack is as high as an older part of it leaves this part. -/
theorem cycle_older {m m' : Machine} (cycled : s.cycle m = .next m') {older : List SavePoint}
    (part : older <:+ m.savePoints.items) (height : m'.savePoints.items.length = older.length) :
    m'.savePoints.items = older := by
  rcases cycle_saved cycled with ⟨sp, pushed⟩ | dropped
  · have le := part.length_le
    rw [pushed, List.length_cons] at height
    omega
  · have le := List.suffix_of_suffix_length_le dropped part (Nat.le_of_eq height)
    exact le.eq_of_length height

/-- What the construct was entered with is still there when its body is entered. -/
theorem Activation.older {e : Enclosure} {k n : Nat} {entry saving m : Machine}
    (activation : s.Activation e k n entry saving m) (live : m.status = .inProgress)
    (ran : s.runFor n s.start = .next m)
    (height : saving.savePoints.items.length = entry.savePoints.items.length + e.lead) :
    entry.savePoints.items <:+ saving.savePoints.items := by
  have entered := activation.entered
  have saved := activation.saved
  cases e with
  | atomic mid =>
    cases entered.symm.trans saved
    exact List.suffix_refl _
  | assertion kind mid =>
    have before : k ≤ n := Nat.le_of_lt (Nat.lt_of_succ_lt activation.before)
    obtain ⟨entry', entered', going⟩ := runFor_before ran live before
    cases entered.symm.trans entered'
    have cycled : s.cycle entry = .next saving := by
      rw [← runFor_one going, ← runFor_add entered]
      exact saved
    rcases cycle_saved cycled with ⟨sp, pushed⟩ | dropped
    · rw [pushed]
      exact List.suffix_cons _ _
    · have le := dropped.length_le
      rw [height] at le
      exact absurd le (Nat.not_succ_le_self _)

/-- From the exit a thread goes behind the construct, with what the construct was entered with. -/
theorem move_leaves {t entry : Thread} {e : Enclosure} (closes : s.program.Closes e)
    (inside : s.Inside t.config.position) (exits : t.config.pc.index = e.exit)
    (saved : t.savePoints = (entry.lead e).savePoints)
    (calls : t.config.callStack = entry.config.callStack) :
    ∃ t', s.move t = .next t' ∧ t'.config.pc = e.done ∧ t'.savePoints = entry.savePoints ∧
      t'.config.callStack = entry.config.callStack ∧ ∀ kind mid, e = .assertion kind mid →
        t'.config.position = entry.config.position ∧
          t'.config.registers = entry.config.registers := by
  cases e with
  | atomic mid =>
    have known : s.program.operation? t.config.pc.index = some (.branch ⟨mid + 3⟩) := by
      rw [exits]
      exact closes.2.1
    exact ⟨_, move_of_operation inside known, rfl, saved, calls, nofun⟩
  | assertion kind mid =>
    have known : s.program.operation? t.config.pc.index = some .fail := by
      rw [exits]
      cases kind with
      | positive => exact closes.2.1
      | negative => exact closes.2.2.2
    have moved := move_of_operation inside known
    simp only [effect, Thread.obey, saved, Thread.lead, Thread.save, Move.fall] at moved
    exact ⟨_, moved, rfl, rfl, rfl, fun _ _ _ => ⟨rfl, rfl⟩⟩

end Search

/-! ### Runs -/

namespace Search

/-- The next cycle of a run, if its thread goes on. -/
theorem runFor_next {n : Nat} {m : Machine} {r : SnapshotMachine} {t : Thread}
    (ran : s.runFor n s.start = .next m) (live : m.status = .inProgress) (tracks : Tracks m r)
    (moved : s.move r.thread = .next t) :
    ∃ m', s.cycle m = .next m' ∧ s.runFor (n + 1) s.start = .next m' ∧
      ((m'.status = .failed ∧ m'.exceeded.isSome) ∨
        (m'.status = .inProgress ∧ ∃ r', Tracks m' r' ∧ r'.thread = t)) := by
  obtain ⟨m', cycled, result⟩ := cycle_next tracks live moved
  refine ⟨m', cycled, ?_, result⟩
  rw [runFor_add ran, runFor_one live, cycled]

theorem inside_of_runFor (valid : s.range.start ≤ s.range.stop) {n : Nat} {m : Machine}
    {r : SnapshotMachine} (ran : s.runFor n s.start = .next m) (tracks : Tracks m r) :
    s.Inside r.thread.config.position := by
  obtain ⟨r', tracks', within⟩ := runFor_within valid ran
  have same : r'.thread.config = r.thread.config := tracks'.config.symm.trans tracks.config
  exact same ▸ within.config.inside

variable {n : Nat} {m : Machine} (staged : s.program.WellStaged entries)
  (valid : s.range.start ≤ s.range.stop) (ran : s.runFor n s.start = .next m)
  (live : m.status = .inProgress)

include staged valid ran live

theorem clearsOwn {a : Address}
    (known : s.program.operation? m.pc.index = some (.clearThrough a)) : s.ClearsOwn n m a := by
  obtain ⟨r, tracks, comes⟩ := runFor_comes ran live
  rw [tracks.pc] at known
  obtain ⟨e, k, entry, sn, closes, here, catching, catches, calls, dropped⟩ :=
    comes.clears staged known
  have calls : sn.callStack.items = m.callStack.items := by rw [calls, tracks.callStack]
  obtain ⟨entryₘ, saving, -, r', activation, -, -, tracks', lead⟩ :=
    catches.activation staged closes ran live (Nat.le_refl n) (Nat.le_succ n) calls
  obtain ⟨sp, resume, pushed⟩ := catches.pushedIn ran live activation.saved
  obtain ⟨above, splits⟩ := pushed.splits ran live
  have moved := move_of_operation (inside_of_runFor valid ran tracks) known
  simp only [effect, Thread.obey, dropped] at moved
  obtain ⟨m', cycled, ran', result⟩ := runFor_next ran live tracks moved
  refine ⟨e, k, entryₘ, saving, above, sp, m', closes, here.trans ?_, catching, activation,
    resume.trans catching, pushed, splits, ran', result.imp_right ?_⟩
  · rw [tracks.pc]
  · rintro ⟨live', r'', tracks'', thread⟩
    have part : saving.savePoints.items <:+ m.savePoints.items :=
      (List.suffix_cons _ _).trans (pushed.stays n m pushed.before (Nat.le_refl n) ran)
    have height : m'.savePoints.items.length = saving.savePoints.items.length := by
      rw [tracks''.height, tracks'.height, thread, lead]
    refine ⟨live', Stack.ext (cycle_older cycled part height), ?_⟩
    have config : m'.config = r''.thread.config := tracks''.config
    rw [config, thread, tracks.config]
    rfl

theorem leavesOwn {e : Enclosure} (closes : s.program.Closes e) (exits : m.pc.index = e.exit) :
    s.LeavesOwn n m e := by
  obtain ⟨r, tracks, comes⟩ := runFor_comes ran live
  rw [tracks.pc] at exits
  obtain ⟨n', k, entry, sn, rfl, catches, calls, saved⟩ := comes.exits staged closes exits
  have calls : sn.callStack.items = m.callStack.items := by rw [calls, tracks.callStack]
  obtain ⟨entryₘ, saving, r₁, r', activation, tracks₁, rfl, tracks', lead⟩ :=
    catches.activation staged closes ran live (Nat.le_succ n') (Nat.le_refl _) calls
  have lower : saving.savePoints.items.length = entryₘ.savePoints.items.length + e.lead := by
    rw [tracks'.height, lead, tracks₁.height]
    cases e <;> rfl
  have older := activation.older live ran lower
  -- One cycle before, the save points of the construct were still there.
  obtain ⟨m₀, ran₀, live₀⟩ := runFor_before ran live (Nat.le_succ n')
  obtain ⟨sp, -, pushed⟩ := catches.pushedIn ran₀ live₀ activation.saved
  have cycled₀ : s.cycle m₀ = .next m := by rw [← runFor_one live₀, ← runFor_add ran₀, ran]
  have part : saving.savePoints.items <:+ m₀.savePoints.items :=
    (List.suffix_cons _ _).trans (pushed.stays n' m₀ pushed.before (Nat.le_refl n') ran₀)
  have left : m.savePoints.items = saving.savePoints.items := by
    refine cycle_older cycled₀ part ?_
    rw [tracks.height, saved, tracks'.height, lead]
  have entryCalls : r.thread.config.callStack = r₁.thread.config.callStack := by
    rw [← tracks.callStack, ← activation.calls.1, tracks₁.callStack]
  obtain ⟨t, moved, pc, stack, callStack, restored⟩ :=
    move_leaves closes (inside_of_runFor valid ran tracks) exits saved entryCalls
  obtain ⟨m', cycled, ran', result⟩ := runFor_next ran live tracks moved
  refine ⟨k, entryₘ, saving, m', activation, ran', result.imp_right ?_⟩
  rintro ⟨live', r'', tracks'', rfl⟩
  refine ⟨live', tracks''.pc.trans pc, Stack.ext ?_, ?_, fun kind mid eq => ?_⟩
  · refine cycle_older cycled (left ▸ older) ?_
    rw [tracks''.height, stack, tracks₁.height]
  · rw [tracks''.callStack, callStack, tracks₁.callStack]
  · obtain ⟨position, registers⟩ := restored kind mid eq
    exact ⟨tracks''.position.trans (position.trans tracks₁.position.symm),
      tracks''.registers.trans (registers.trans tracks₁.registers.symm)⟩

end Search

/-- Programs of patterns and grammars are at right stages. -/
theorem wellStaged_of_compiled {limit : Nat}
    (compiled : (∃ q : Pattern E, q.compile limit = .ok p) ∨
      ∃ g : Grammar E, g.compile limit = .ok p) : ∃ entries, p.WellStaged entries := by
  rcases compiled with ⟨q, compiled⟩ | ⟨g, compiled⟩
  · obtain ⟨hi, placed⟩ := Pattern.compile_placed compiled
    exact ⟨_, placed.wellStaged⟩
  · obtain ⟨entry, placed, -⟩ := Grammar.compile_placed compiled
    exact ⟨_, placed.wellStaged⟩

/-- Wherever a machine with a compiled program executes a `CLEAR_THROUGH`, it removes the save points of its
own activation of the construct and no others, even if the construct is entered again in its body. And
wherever a machine is at the exit of a construct, it leaves the construct with the save points it was
entered with; if it is an assertion, with the position, the registers and the call stack, too. -/
theorem constructs_cut_own {limit : Nat}
    (compiled : (∃ q : Pattern E, q.compile limit = .ok p) ∨ ∃ g : Grammar E, g.compile limit = .ok p)
    {input : Array E} {range : Span} {settings : Settings}
    (prepared : Search.prepare p input range settings = .ok s) {n : Nat} {m : Machine}
    (ran : s.runFor n s.start = .next m) (live : m.status = .inProgress) :
    (∀ a, p.operation? m.pc.index = some (.clearThrough a) → s.ClearsOwn n m a) ∧
      ∀ e, p.Closes e → m.pc.index = e.exit → s.LeavesOwn n m e := by
  obtain ⟨eq, valid, -⟩ := Search.prepare_spec prepared
  obtain ⟨entries, staged⟩ := wellStaged_of_compiled compiled
  have program : s.program = p := by rw [eq]
  have valid : s.range.start ≤ s.range.stop := by rw [eq]; exact valid
  subst program
  exact ⟨fun a known => Search.clearsOwn staged valid ran live known,
    fun e closes exits => Search.leavesOwn staged valid ran live closes exits⟩

/-- A production that is an atomic group and asserts itself inside. When the second activation of the group
clears, the save points of the first one stay, though they resume at the same addresses; and the assertion
around the second activation goes back to where it began. -/
theorem constructs_cut_own_nested :
    let g : Grammar Nat := ⟨"nest", [("nest", .atomic (.alternation
      [.concat [.element 0, .lookahead .positive (.reference "nest")], .element 1]))]⟩
    ∃ (p : Program Nat) (s : Search Nat) (m m' : Machine), g.compile 100 = .ok p ∧
      Search.prepare p #[0, 1] ⟨0, 2⟩ {} = .ok s ∧
      s.runFor 13 s.start = .next m ∧ m.pc.index = (Enclosure.atomic 14).mid ∧
      m.savePoints.items.map (·.resume.index) = [16, 10, 12, 13, 16] ∧ s.ClearsOwn 13 m ⟨16⟩ ∧
      s.runFor 17 s.start = .next m' ∧ m'.pc.index = (Enclosure.assertion .positive 8).exit ∧
      m'.savePoints.items.map (·.resume.index) = [12, 13, 16] ∧ m'.position = 2 ∧
      s.LeavesOwn 17 m' (.assertion .positive 8) := by
  intro g
  let search (p : Program Nat) : Search Nat := ⟨p, #[0, 1], ⟨0, 2⟩, {}⟩
  -- one question at a time: the kernel does not recurse deep enough for all of them at once
  have grouped : (g.compile 100).toOption.any fun p =>
      ((search p).runFor 13 (search p).start).leadsTo fun m => m.status = .inProgress ∧
        m.pc.index = 14 ∧ m.savePoints.items.map (·.resume.index) = [16, 10, 12, 13, 16] := by
    decide +kernel
  have asserted : (g.compile 100).toOption.any fun p =>
      ((search p).runFor 17 (search p).start).leadsTo fun m => m.status = .inProgress ∧
        m.pc.index = 9 ∧ m.savePoints.items.map (·.resume.index) = [12, 13, 16] ∧ m.position = 2 := by
    decide +kernel
  have code : (g.compile 100).toOption.any fun p => p.operation? 14 = some (.clearThrough ⟨16⟩) ∧
      p.operation? 8 = some (.clearThrough ⟨10⟩) ∧ p.operation? 9 = some .fail ∧
      p.operation? 10 = some .clear ∧ p.operation? 11 = some .fail := by
    decide +kernel
  cases compiled : g.compile 100 with
  | error e => rw [compiled] at code; cases code
  | ok p =>
    rw [compiled] at grouped asserted code
    obtain ⟨clears, closes⟩ := of_decide_eq_true code
    obtain ⟨m, ran, live, pc, resumes⟩ := Step.exists_of_leadsTo grouped
    obtain ⟨m', ran', live', pc', resumes', position⟩ := Step.exists_of_leadsTo asserted
    have prepared : Search.prepare p #[0, 1] ⟨0, 2⟩ {} = .ok (search p) := rfl
    have program : (∃ q : Pattern Nat, q.compile 100 = .ok p) ∨
        ∃ g : Grammar Nat, g.compile 100 = .ok p := .inr ⟨g, compiled⟩
    have cuts := (constructs_cut_own program prepared ran live).1 ⟨16⟩ (pc ▸ clears)
    have leaves := (constructs_cut_own program prepared ran' live').2
      (.assertion .positive 8) closes pc'
    exact ⟨p, search p, m, m', rfl, prepared, ran, pc, resumes, cuts, ran', pc', resumes', position,
      leaves⟩

end PatternMachine

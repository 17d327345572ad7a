import PatternMachine.Proofs.Cuts.Stages

/-! What a thread at a right stage does next: it goes on with the save points it has, saves, clears, calls,
returns or resumes. All that is said of threads in constructs that cut is derived from these turns. -/
namespace PatternMachine

variable {E : Type}

/-- Operations that go on with the next instruction, or fail. -/
def Operation.Steady : Operation → Prop
  | .nop _ | .consume _ | .consumeBy _ | .matchElement _ | .matchPredicate _ | .movePosition _
  | .comparePosition _ _ | .beginCapture _ | .endCapture _ | .backreference _ => True
  | _ => False

/-- Effects that go on with the next instruction, or fail, and keep the call stack. -/
def Effect.Steady (c : Configuration) : Effect → Prop
  | .go pc _ => pc = c.pc.next
  | .change c' _ => c'.pc = c.pc.next ∧ c'.callStack = c.callStack
  | .fault _ | .say _ _ | .backtrack => True
  | _ => False

/-- The thread goes on at `pc`, with the calls and the save points it has. -/
structure Thread.Continues (t : Thread) (pc : Address) (t' : Thread) : Prop where
  pc : t'.config.pc = pc
  calls : t'.config.callStack = t.config.callStack
  saved : t'.savePoints = t.savePoints

/-- The thread resumes what it has saved last. -/
def Thread.Resumes (t t' : Thread) : Prop :=
  ∃ sn rest position, t.savePoints = sn :: rest ∧ t' = ⟨sn.config position, rest⟩

namespace Thread

variable {t t' : Thread}

theorem resumes_of_fall {position : Nat} (fell : Move.fall position t.savePoints = .next t') :
    t.Resumes t' := by
  cases saved : t.savePoints with
  | nil =>
    rw [saved] at fell
    cases fell
  | cons sn rest =>
    rw [saved] at fell
    cases fell
    exact ⟨sn, rest, position, saved, rfl⟩

theorem obey_steady {e : Effect} (steady : e.Steady t.config) (obeyed : t.obey e = .next t') :
    t.Continues t.config.pc.next t' ∨ t.Resumes t' := by
  cases e with
  | go pc position =>
    cases obeyed
    exact .inl ⟨steady, rfl, rfl⟩
  | say level text =>
    cases obeyed
    exact .inl ⟨rfl, rfl, rfl⟩
  | change c u =>
    cases obeyed
    exact .inl ⟨steady.1, steady.2, rfl⟩
  | backtrack => exact .inr (resumes_of_fall obeyed)
  | fault f => cases obeyed
  | _ => exact steady.elim

end Thread

namespace Search

variable [DecidableEq E] {s : Search E} {c : Configuration}

theorem consumption_steady (holds : Bool) : (consumption c holds).Steady c := by
  cases holds
  · trivial
  · exact rfl

theorem assignment_steady (register : BoolRegister) (value : Bool) :
    (assignment c register value).Steady c := by
  unfold assignment
  split
  · trivial
  · exact ⟨rfl, rfl⟩

theorem effect_steady {op : Operation} (steady : op.Steady) : (s.effect c op).Steady c := by
  cases op with
  | nop comment =>
    simp only [effect]
    repeat' split
    all_goals first | exact rfl | trivial
  | consume distance =>
    simp only [effect]
    repeat' split
    all_goals first | exact rfl | trivial
  | consumeBy function =>
    simp only [effect]
    repeat' split
    all_goals first | exact rfl | trivial
  | matchElement element =>
    simp only [effect]
    split
    · trivial
    · exact consumption_steady _
  | matchPredicate predicate =>
    simp only [effect]
    split
    · trivial
    · exact consumption_steady _
  | movePosition register =>
    simp only [effect]
    split
    · trivial
    · exact ⟨rfl, rfl⟩
  | comparePosition register condition =>
    simp only [effect]
    split
    · trivial
    · exact assignment_steady _ _
  | beginCapture register =>
    simp only [effect]
    split
    · trivial
    · exact ⟨rfl, rfl⟩
  | endCapture register =>
    simp only [effect]
    split
    · trivial
    · trivial
    · exact ⟨rfl, rfl⟩
  | backreference register =>
    simp only [effect]
    repeat' split
    all_goals first | exact rfl | trivial
  | _ => exact steady.elim

end Search

/-- What a thread at a stage may do next. -/
inductive Turn (p : Program E) (entries : Address → Prop) (t : Thread) : Stage → Thread → Prop
  | goes {d : List Enclosure} {t' : Thread} :
    p.operation? t.config.pc.index ≠ some .fail →
    t.Continues t'.config.pc t' → t'.config.pc = t.config.pc.next ∨ p.Landing t'.config.pc →
    p.Staged entries (fun _ _ => False) t'.config.pc.index (.inside d) →
    Turn p entries t (.inside d) t'
  | saves {σ : Stage} {a : Address} : p.operation? t.config.pc.index = some (.save a) →
    σ.Saves p (p.Staged entries fun _ _ => False) t.config.pc.index a →
    Turn p entries t σ (t.save a)
  | clears {d : List Enclosure} {sn : Snapshot} {rest : List Snapshot} :
    p.operation? t.config.pc.index = some .clear → t.savePoints = sn :: rest →
    p.Staged entries (fun _ _ => False) (t.config.pc.index + 1) (.inside d) →
    Turn p entries t (.settled d) ⟨t.config.advance, rest⟩
  | clearsThrough {e : Enclosure} {d : List Enclosure} {rest : List Snapshot} : p.Closes e →
    t.config.pc.index = e.mid → Snapshot.dropThrough e.catching t.savePoints = some rest →
    p.Staged entries (fun _ _ => False) (t.config.pc.index + 1) (e.settle d) →
    Turn p entries t (.inside (e :: d)) ⟨t.config.advance, rest⟩
  | calls {d : List Enclosure} {a : Address} :
    p.operation? t.config.pc.index = some (.call a) → entries a →
    p.Staged entries (fun _ _ => False) (t.config.pc.index + 1) (.inside d) →
    Turn p entries t (.inside d) { t with config := { t.config with
      pc := a, callStack := t.config.callStack.push t.config.pc.next } }
  | returns {a : Address} {calls : Stack Address} : t.config.callStack.items = a :: calls.items →
    Turn p entries t (.inside []) { t with config := { t.config with pc := a, callStack := calls } }
  | resumes {σ : Stage} {t' : Thread} : t.Resumes t' → Turn p entries t σ t'

theorem Stack.items_of_pop? {α : Type} {xs rest : Stack α} {a : α} (h : xs.pop? = some (a, rest)) :
    xs.items = a :: rest.items := by
  cases items : xs.items with
  | nil =>
    rw [Stack.pop?_of_items_nil items] at h
    cases h
  | cons b below =>
    rw [Stack.pop?_of_items_cons items] at h
    cases h
    simp

theorem Search.acceptance_resumes {s : Search E} {t t' : Thread}
    (obeyed : t.obey (s.acceptance t.config) = .next t') :
    t.Resumes t' := by
  unfold Search.acceptance at obeyed
  split at obeyed
  · exact Thread.resumes_of_fall obeyed
  · cases obeyed

/-- A thread at a right stage takes one of these turns. -/
theorem Search.move_turn [DecidableEq E] {s : Search E} {entries : Address → Prop}
    {t t' : Thread} {σ : Stage}
    (staged : s.program.Staged entries (fun _ _ => False) t.config.pc.index σ)
    (moved : s.move t = .next t') : Turn s.program entries t σ t' := by
  obtain ⟨-, op, known, moved⟩ := move_next moved
  have rule := staged.rule known
  have steady (h : op.Steady) (on : ∃ d, σ = .inside d ∧
      s.program.Staged entries (fun _ _ => False) (t.config.pc.index + 1) (.inside d)) :
      Turn s.program entries t σ t' := by
    obtain ⟨d, rfl, on⟩ := on
    rcases Thread.obey_steady (effect_steady h) moved with continues | resumes
    · have passes : s.program.operation? t.config.pc.index ≠ some .fail := by
        rw [known]
        rintro ⟨rfl⟩
        exact h
      have pc : t'.config.pc = t.config.pc.next := continues.pc
      exact .goes passes (pc ▸ continues) (.inl pc) (pc ▸ on)
    · exact .resumes resumes
  cases op with
  | branch target =>
    obtain ⟨d, rfl, landing, there⟩ := rule
    cases moved
    exact .goes (by simp [known]) ⟨rfl, rfl, rfl⟩ (.inr landing) there
  | condBranch condition target =>
    obtain ⟨d, rfl, landing, there, on⟩ := rule
    simp only [effect] at moved
    split at moved
    · cases moved
    · cases moved
      exact .goes (by simp [known]) ⟨rfl, rfl, rfl⟩ (.inr landing) there
    · cases moved
      exact .goes (by simp [known]) ⟨rfl, rfl, rfl⟩ (.inl rfl) on
  | save target =>
    cases moved
    exact .saves known rule
  | clear =>
    obtain ⟨d, rfl, on⟩ := rule
    simp only [effect, Thread.obey] at moved
    split at moved
    · cases moved
    next saved =>
      cases moved
      exact .clears known saved on
  | clearThrough target =>
    obtain ⟨e, d, rfl, rfl, here, closes, on⟩ := rule
    simp only [effect, Thread.obey] at moved
    split at moved
    · cases moved
    next dropped =>
      cases moved
      exact .clearsThrough closes here dropped on
  | call target =>
    obtain ⟨d, rfl, entered, on⟩ := rule
    cases moved
    exact .calls known entered on
  | ret =>
    cases rule
    simp only [effect] at moved
    split at moved
    · exact .resumes (acceptance_resumes moved)
    next popped =>
      cases moved
      exact .returns (Stack.items_of_pop? popped)
  | accept => exact .resumes (acceptance_resumes moved)
  | fail => exact .resumes (Thread.resumes_of_fall moved)
  | invalid | saveAddress | restore | abort | assertion | print => exact rule.elim
  | _ => exact steady trivial rule

/-- Only saving adds a save point. -/
theorem Turn.pushes {p : Program E} {entries : Address → Prop} {t t' : Thread} {σ : Stage}
    (turn : Turn p entries t σ t') (longer : t.savePoints.length < t'.savePoints.length) :
    ∃ a, p.operation? t.config.pc.index = some (.save a) ∧
      σ.Saves p (p.Staged entries fun _ _ => False) t.config.pc.index a ∧ t' = t.save a := by
  cases turn with
  | saves known rule => exact ⟨_, known, rule, rfl⟩
  | goes _ continues =>
    rw [continues.saved] at longer
    exact absurd longer (Nat.lt_irrefl _)
  | clears _ eq =>
    rw [eq] at longer
    exact absurd (Nat.lt_trans (Nat.lt_succ_self _) longer) (Nat.lt_irrefl _)
  | clearsThrough _ _ dropped =>
    exact absurd longer (Nat.not_lt.mpr (Snapshot.dropThrough_suffix dropped).length_le)
  | calls => exact absurd longer (Nat.lt_irrefl _)
  | returns => exact absurd longer (Nat.lt_irrefl _)
  | resumes resumed =>
    obtain ⟨sn, rest, position, eq, rfl⟩ := resumed
    rw [eq] at longer
    exact absurd (Nat.lt_trans (Nat.lt_succ_self _) longer) (Nat.lt_irrefl _)

end PatternMachine

import PatternMachine.Proofs.Cuts.Construct
import PatternMachine.Proofs.Cuts.Turns

/-! Every activation of a function waits for the save points of the constructs that it is inside of. They
lie on the stack in the order of the activations and of the constructs, with nothing between them but
alternatives, and no alternative resumes where a body is caught. A turn keeps this up, for what goes on and
for everything that is saved. -/
namespace PatternMachine

variable {E : Type} (p : Program E) (entries : Address → Prop)

/-- The constructs that the activations are inside of, the current activation first, each with the return
addresses of its activation. -/
def held : List (List Enclosure) → List Address → List (Enclosure × List Address)
  | [], _ => []
  | d :: outer, calls => d.map (·, calls) ++ held outer calls.tail

/-- The save points that the constructs wait for, and alternatives between them. An assertion waits for
two, which differ in where they resume only. -/
inductive Stacked : List (Enclosure × List Address) → List Snapshot → Prop
  | nil : Stacked [] []
  | alternative {waiting : List (Enclosure × List Address)} {sn : Snapshot} {saved : List Snapshot} :
    p.Behind sn.resume → Stacked waiting saved → Stacked waiting (sn :: saved)
  | atomic {mid : Nat} {waiting : List (Enclosure × List Address)} {sn : Snapshot}
    {saved : List Snapshot} : p.Closes (.atomic mid) →
    sn.resume = (Enclosure.atomic mid).catching → Stacked waiting saved →
    Stacked ((.atomic mid, sn.callStack.items) :: waiting) (sn :: saved)
  | assertion {kind : Lookahead} {mid : Nat} {waiting : List (Enclosure × List Address)}
    {sn : Snapshot} {saved : List Snapshot} : p.Closes (.assertion kind mid) →
    sn.resume = (Enclosure.assertion kind mid).done → p.Behind sn.resume → Stacked waiting saved →
    Stacked ((.assertion kind mid, sn.callStack.items) :: waiting)
      ({ sn with resume := (Enclosure.assertion kind mid).catching } :: sn :: saved)

/-- What is saved where control is at a stage; `before` is where it was one move before. -/
def Stage.Saved (before : Option Thread) (t : Thread) (outer : List (List Enclosure)) : Stage → Prop
  | .inside d => Stacked p (held (d :: outer) t.config.callStack.items) t.savePoints
  | .entered kind mid d =>
    ∃ t₀, before = some t₀ ∧ p.Opens t₀.config.pc.index (.assertion kind mid) ∧
      p.Closes (.assertion kind mid) ∧ t = t₀.save (Enclosure.assertion kind mid).done ∧
      p.Behind (Enclosure.assertion kind mid).done ∧
      Stacked p (held (d :: outer) t₀.config.callStack.items) t₀.savePoints
  | .settled d =>
    ∃ sn rest, t.savePoints = sn :: rest ∧ p.Behind sn.resume ∧
      Stacked p (held (d :: outer) t.config.callStack.items) rest

/-- A return address stands behind a call, and inside of these constructs. -/
def Program.ReturnsTo (a : Address) (d : List Enclosure) : Prop :=
  (∃ i b, a.index = i + 1 ∧ p.operation? i = some (.call b)) ∧
    p.Staged entries (fun _ _ => False) a.index (.inside d)

/-- A thread whose constructs have what they wait for. -/
structure Thread.Waits (before : Option Thread) (t : Thread) (σ : Stage)
    (outer : List (List Enclosure)) : Prop where
  staged : p.Staged entries (fun _ _ => False) t.config.pc.index σ
  returns : List.Forall₂ (p.ReturnsTo entries) t.config.callStack.items outer
  saved : σ.Saved p before t outer

/-- All that is saved can be resumed by a thread whose constructs have what they wait for. -/
def SavedWaits : List Snapshot → Prop
  | [] => True
  | sn :: rest =>
    (∃ σ outer, ∀ position, Thread.Waits p entries none ⟨sn.config position, rest⟩ σ outer) ∧
      SavedWaits rest

/-- The thread and all that it has saved have what they wait for. -/
structure Thread.Encloses (before : Option Thread) (t : Thread) : Prop where
  waits : ∃ σ outer, t.Waits p entries before σ outer
  saved : SavedWaits p entries t.savePoints

variable {p entries}

theorem SavedWaits.dropThrough {saved rest : List Snapshot} {target : Address}
    (h : SavedWaits p entries saved) (dropped : Snapshot.dropThrough target saved = some rest) :
    SavedWaits p entries rest := by
  induction saved with
  | nil => cases dropped
  | cons sn saved ih =>
    by_cases same : sn.resume = target
    · rw [Snapshot.dropThrough, if_pos same] at dropped
      cases dropped
      exact h.2
    · rw [Snapshot.dropThrough, if_neg same] at dropped
      exact ih h.2 dropped

/-! ### What is held -/

theorem suffix_of_held {e : Enclosure} {own calls : List Address} {all : List (List Enclosure)}
    (h : (e, own) ∈ held all calls) : own <:+ calls := by
  induction all generalizing calls with
  | nil => cases h
  | cons d outer ih =>
    rcases List.mem_append.mp h with current | older
    · obtain ⟨_, _, eq⟩ := List.mem_map.mp current
      cases eq
      exact List.suffix_refl _
    · exact (ih older).trans (List.tail_suffix calls)

/-- What the current activation holds is what is around the current point. -/
theorem mem_of_held {R : Address → List Enclosure → Prop} {e : Enclosure} {calls : List Address}
    {d : List Enclosure} {outer : List (List Enclosure)} (returns : List.Forall₂ R calls outer)
    (h : (e, calls) ∈ held (d :: outer) calls) : e ∈ d := by
  rcases List.mem_append.mp h with current | older
  · obtain ⟨e', member, eq⟩ := List.mem_map.mp current
    cases eq
    exact member
  · cases returns with
    | nil => cases older
    | cons _ _ =>
      have le := (suffix_of_held older).length_le
      exact absurd le (Nat.not_succ_le_self _)

namespace Stacked

variable {waiting : List (Enclosure × List Address)} {saved : List Snapshot}

theorem closes (h : Stacked p waiting saved) {e : Enclosure} {calls : List Address}
    (member : (e, calls) ∈ waiting) : p.Closes e := by
  induction h with
  | nil => cases member
  | alternative _ _ ih => exact ih member
  | atomic closes _ _ ih =>
    rcases List.mem_cons.mp member with eq | member
    · cases eq
      exact closes
    · exact ih member
  | assertion closes _ _ _ ih =>
    rcases List.mem_cons.mp member with eq | member
    · cases eq
      exact closes
    · exact ih member

/-- A save point is an alternative, or an activation waits for it. -/
theorem resumes (h : Stacked p waiting saved) {sn : Snapshot} (member : sn ∈ saved) :
    p.Behind sn.resume ∨
      ∃ e, p.Closes e ∧ sn.resume = e.catching ∧ (e, sn.callStack.items) ∈ waiting := by
  induction h with
  | nil => cases member
  | alternative behind _ ih =>
    rcases List.mem_cons.mp member with rfl | member
    · exact .inl behind
    · exact ih member
  | atomic closes resume _ ih =>
    rcases List.mem_cons.mp member with rfl | member
    · exact .inr ⟨_, closes, resume, List.mem_cons_self⟩
    · exact (ih member).imp_right fun ⟨e, closes, resume, held⟩ =>
        ⟨e, closes, resume, List.mem_cons_of_mem _ held⟩
  | assertion closes _ behind _ ih =>
    rcases List.mem_cons.mp member with rfl | member
    · exact .inr ⟨_, closes, rfl, List.mem_cons_self⟩
    rcases List.mem_cons.mp member with rfl | member
    · exact .inl behind
    · exact (ih member).imp_right fun ⟨e, closes, resume, held⟩ =>
        ⟨e, closes, resume, List.mem_cons_of_mem _ held⟩

/-- What is cleared is alternatives and the save point that catches. Below it an assertion has one that
resumes behind the construct. -/
theorem clear {e : Enclosure} {calls : List Address}
    (h : Stacked p ((e, calls) :: waiting) saved) :
    ∃ above sn rest, saved = above ++ sn :: rest ∧ sn.resume = e.catching ∧
      sn.callStack.items = calls ∧ Snapshot.dropThrough e.catching saved = some rest ∧
      match e with
      | .atomic _ => Stacked p waiting rest
      | .assertion _ _ => ∃ below, rest = { sn with resume := e.done } :: below ∧
          p.Behind e.done ∧ Stacked p waiting below := by
  have closes := h.closes List.mem_cons_self
  generalize eq : (e, calls) :: waiting = all at h
  induction h with
  | nil => cases eq
  | @alternative _ sn saved behind stacked ih =>
    obtain ⟨above, sn', rest, rfl, resume, same, dropped, below⟩ := ih eq
    have other : sn.resume ≠ e.catching := fun same => closes.catching_not_behind (same ▸ behind)
    have dropped : Snapshot.dropThrough e.catching (sn :: (above ++ sn' :: rest)) = some rest := by
      rw [Snapshot.dropThrough, if_neg other]
      exact dropped
    exact ⟨sn :: above, sn', rest, rfl, resume, same, dropped, below⟩
  | atomic closes resume stacked =>
    cases eq
    exact ⟨[], _, _, rfl, resume, rfl, if_pos resume, stacked⟩
  | assertion closes resume behind stacked =>
    cases eq
    refine ⟨[], _, _, rfl, rfl, rfl, if_pos rfl, _, ?_, resume ▸ behind, stacked⟩
    rw [← resume]

end Stacked

/-! ### Turns -/

namespace Thread.Waits

variable {before : Option Thread} {t t' : Thread} {σ : Stage} {outer : List (List Enclosure)}

/-- Nothing is lost for a thread that does not come from anywhere. -/
theorem resumed (h : t.Waits p entries none σ outer) : t.Waits p entries before σ outer where
  staged := h.staged
  returns := h.returns
  saved := by
    have saved := h.saved
    cases σ with
    | inside d => exact saved
    | settled d => exact saved
    | entered kind mid d =>
      obtain ⟨t₀, none, -⟩ := saved
      cases none

theorem inside {d : List Enclosure}
    (staged : p.Staged entries (fun _ _ => False) t.config.pc.index (.inside d))
    (returns : List.Forall₂ (p.ReturnsTo entries) t.config.callStack.items outer)
    (stacked : Stacked p (held (d :: outer) t.config.callStack.items) t.savePoints) :
    t.Waits p entries before (.inside d) outer := ⟨staged, returns, stacked⟩

end Thread.Waits

/-- A turn leads from threads whose constructs have what they wait for to such threads. -/
theorem Turn.encloses {before : Option Thread} {t t' : Thread} {σ : Stage}
    {outer : List (List Enclosure)} (turn : Turn p entries t σ t')
    (waits : t.Waits p entries before σ outer) (saved : SavedWaits p entries t.savePoints)
    (staged : p.WellStaged entries) : t'.Encloses p entries (some t) := by
  obtain ⟨-, returns, stacked⟩ := waits
  cases turn with
  | goes _ continues _ there =>
    obtain ⟨-, calls, same⟩ := continues
    refine ⟨⟨_, outer, .inside there (calls ▸ returns) ?_⟩, same ▸ saved⟩
    rw [calls, same]
    exact stacked
  | saves known rule =>
    cases rule with
    | alternative behind there on =>
      refine ⟨⟨_, outer, .inside on returns (.alternative behind stacked)⟩, ?_, saved⟩
      exact ⟨_, outer, fun _ => .inside there returns stacked⟩
    | atomic opens closes eq apart there on =>
      refine ⟨⟨_, outer, .inside on returns ?_⟩, ?_, saved⟩
      · exact @Stacked.atomic _ p _ _ (t.config.save _ _) _ closes eq stacked
      · exact ⟨_, outer, fun _ => .inside there returns stacked⟩
    | assertion opens closes eq behind there on =>
      subst eq
      refine ⟨⟨_, outer, on, returns, t, rfl, opens, closes, rfl, behind, stacked⟩, ?_, saved⟩
      exact ⟨_, outer, fun _ => .inside there returns stacked⟩
    | catching eq apart there on =>
      subst eq
      obtain ⟨t₀, rfl, opens, closes, rfl, behind, stacked⟩ := stacked
      refine ⟨⟨_, outer, .inside on returns ?_⟩, ?_, saved⟩
      · exact @Stacked.assertion _ p _ _ _ (t₀.config.save _ _) _ closes rfl behind stacked
      · exact ⟨_, outer, fun _ => ⟨there, returns, _, _, rfl, behind, stacked⟩⟩
  | clears known eq on =>
    obtain ⟨sn, rest, eq', -, stacked⟩ := stacked
    cases eq.symm.trans eq'
    rw [eq] at saved
    exact ⟨⟨_, outer, .inside on returns stacked⟩, saved.2⟩
  | @clearsThrough e d rest closes here dropped on =>
    have saved := saved.dropThrough dropped
    obtain ⟨-, sn, rest', -, -, -, dropped', below⟩ := Stacked.clear stacked
    cases dropped.symm.trans dropped'
    refine ⟨⟨_, outer, on, returns, ?_⟩, saved⟩
    cases e with
    | atomic mid => exact below
    | assertion kind mid =>
      obtain ⟨below, rfl, behind, stacked⟩ := below
      exact ⟨_, _, rfl, behind, stacked⟩
  | @calls d a known entered on =>
    obtain ⟨-, there⟩ := staged.functions a entered
    refine ⟨⟨_, d :: outer, .inside there ?_ stacked⟩, saved⟩
    exact .cons ⟨⟨_, a, rfl, known⟩, on⟩ returns
  | returns eq =>
    have stacked : Stacked p (held ([] :: outer) t.config.callStack.items) t.savePoints := stacked
    rw [eq] at returns stacked
    cases returns with
    | cons there returns => exact ⟨⟨_, _, .inside there.2 returns stacked⟩, saved⟩
  | resumes resumed =>
    obtain ⟨sn, rest, position, eq, rfl⟩ := resumed
    rw [eq] at saved
    obtain ⟨⟨σ, outer, waits⟩, saved⟩ := saved
    exact ⟨⟨σ, outer, (waits position).resumed⟩, saved⟩

end PatternMachine

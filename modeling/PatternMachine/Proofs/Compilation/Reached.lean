import Mathlib.Logic.Relation
import PatternMachine.Proofs.Compilation.Stepwise
import PatternMachine.Proofs.Layout.Program

/-! Compiling a grammar follows the calls from the start production. The productions that wait for their
code, or have it, are different ones that can be reached, and so there are no more of them than productions;
and nothing else can be missing. -/
namespace PatternMachine

variable {E : Type}

/-- Among different names, a name has what is listed with it. -/
theorem lookup_iff_mem {α : Type} {listed : List (String × α)} (distinct : (listed.map (·.1)).Nodup)
    {name : String} {a : α} : listed.lookup name = some a ↔ (name, a) ∈ listed := by
  constructor
  · intro found
    obtain ⟨before, after, rfl, -⟩ := List.lookup_eq_some_iff.mp found
    simp
  · intro member
    obtain ⟨before, after, rfl⟩ := List.append_of_mem member
    rw [List.map_append, List.map_cons, List.nodup_append] at distinct
    have first : name ∉ before.map (·.1) := fun early =>
      distinct.2.2 name early name List.mem_cons_self rfl
    refine List.lookup_eq_some_iff.mpr ⟨before, after, rfl, fun q early => ?_⟩
    simp only [bne_iff_ne, ne_eq]
    rintro rfl
    exact first (List.mem_map_of_mem early)

namespace Grammar

/-- The code of the first production calls the second one. -/
def Calls (g : Grammar E) (caller callee : String) : Prop :=
  ∃ body, g.get? caller = some body ∧ callee ∈ body.callees

/-- The start production leads to this one, by calls. -/
def Reached (g : Grammar E) (name : String) : Prop := Relation.ReflTransGen g.Calls g.start name

end Grammar

namespace Compilation

variable {names : String → Prop} {b c d : Compilation E}

/-- Only such names were met in between. -/
def Discovers (names : String → Prop) (c d : Compilation E) : Prop :=
  d.productions = c.productions ∧ ∃ new, c.Queues d new ∧ ∀ q ∈ new, names q.name

theorem Discovers.of_quiet (productions : d.productions = c.productions)
    (entries : d.entries = c.entries) (pending : d.pending = c.pending) : Discovers names c d :=
  ⟨productions, [], ⟨pending, entries, by simp, fun distinct => by rwa [entries]⟩, by simp⟩

theorem Discovers.refl (c : Compilation E) : Discovers names c c := .of_quiet rfl rfl rfl

theorem Discovers.trans (h : Discovers names b c) (h' : Discovers names c d) :
    Discovers names b d := by
  obtain ⟨productions, new, queues, named⟩ := h
  obtain ⟨productions', new', queues', named'⟩ := h'
  refine ⟨productions'.trans productions, new' ++ new, ⟨?_, ?_, ?_, ?_⟩, ?_⟩
  · rw [queues'.pending, queues.pending, List.append_assoc]
  · rw [queues'.entries, queues.entries, List.map_append, List.append_assoc]
  · intro q member
    rcases List.mem_append.mp member with member | member
    · rw [← productions]
      exact queues'.bodies q member
    · exact queues.bodies q member
  · exact fun distinct => queues'.distinct (queues.distinct distinct)
  · intro q member
    rcases List.mem_append.mp member with member | member
    · exact named' q member
    · exact named q member

/-- Only such names are met, and only such names can be missing. -/
def Meets (names : String → Prop) : Compilation E → Outcome (Compilation E) → Prop :=
  Along (Discovers names) fun c e => ∀ name, e = .error (.undefinedProduction name) →
    names name ∧ c.productions.lookup name = none

/-- The assembler knows nothing of productions. -/
theorem meets_leadsOn : LeadsOn (E := E) (Discovers names) fun c e =>
    ∀ name, e = .error (.undefinedProduction name) → names name ∧ c.productions.lookup name = none where
  trans := .trans
  back discovers errs name eq := by
    rw [← discovers.1]
    exact errs name eq
  quiet _ _ _ := .of_quiet rfl rfl rfl
  other _ _ named _ name eq := absurd eq (named name)

section

theorem meets_entry {name : String} (named : names name) (c : Compilation E) :
    Meets names c ((c.entry name).map (·.2)) := by
  unfold entry
  cases unknown : c.entries.lookup name with
  | some token => exact .refl c
  | none =>
    cases found : c.productions.lookup name with
    | none =>
      intro missing eq
      cases eq
      exact ⟨named, found⟩
    | some body =>
      refine ⟨rfl, [⟨name, c.makeToken.1, body⟩], ⟨rfl, rfl, ?_, fun distinct => ?_⟩, ?_⟩
      · intro q member
        cases List.mem_singleton.mp member
        exact found
      · refine List.nodup_cons.mpr ⟨fun member => ?_, distinct⟩
        obtain ⟨q, known, rfl⟩ := List.mem_map.mp member
        simpa using List.lookup_eq_none_iff.mp unknown q known
      · intro q member
        cases List.mem_singleton.mp member
        exact named

variable [DecidableEq E]

theorem meets_stepwise :
    Stepwise names (fun _ => True) fun body : Emission E => ∀ c, Meets names c (body c) :=
  meets_leadsOn.stepwise (fun _ => meets_entry) fun _ _ _ _ => nofun

/-- The code of a production calls what its body refers to. -/
theorem meets_production (q : PendingProduction E) (c : Compilation E) :
    Meets (· ∈ q.body.callees) c (c.emitProduction q) := by
  have steps : LeadsOn (E := E) (Discovers (· ∈ q.body.callees)) _ := meets_leadsOn
  refine steps.bind (steps.label q.entry c) fun c₁ _ => steps.bind (steps.emit _ c₁) fun c₂ _ => ?_
  have inner : Meets (· ∈ q.body.callees) c₂ (q.body.emit c₂) :=
    meets_stepwise.emitPattern q.body (fun _ member => member) (fun _ _ => trivial) c₂
  exact steps.bind inner fun c₃ _ => steps.emit _ c₃

omit [DecidableEq E] in
theorem meets_makeCaptures (n : Nat) (c : Compilation E) : Meets names c (makeCaptures n c) := by
  induction n generalizing c with
  | zero => exact .refl c
  | succ n ih =>
    refine meets_leadsOn.lift _ fun made => ?_
    let d : Compilation E := { c with assembler := made.2, captures := c.captures.push made.1 }
    have quiet : Discovers names c d := .of_quiet rfl rfl rfl
    exact meets_leadsOn.after quiet (ih d)

theorem meets_alone (q : Pattern E) (c : Compilation E) :
    Meets (· ∈ q.callees) c (emitAlone q c) := by
  refine meets_leadsOn.bind (meets_makeCaptures _ c) fun d _ => ?_
  have inner : Meets (· ∈ q.callees) d (q.emit d) :=
    meets_stepwise.emitPattern q (fun _ member => member) (fun _ _ => trivial) d
  exact meets_leadsOn.bind inner fun d _ => meets_leadsOn.emit .accept d

/-- The program begins with a jump to the start production. -/
theorem meets_open (g : Grammar E) (c : Compilation E) :
    Meets (· = g.start) c (openGrammar g c) := by
  refine meets_leadsOn.bind (meets_makeCaptures _ c) fun d _ => ?_
  exact meets_leadsOn.made (f := fun token c => c.emit (.branch token)) (meets_entry (by rfl) d)
    fun token => meets_leadsOn.emit _

end

theorem Discovers.mono {names' : String → Prop} (h : Discovers names c d)
    (le : ∀ name, names name → names' name) : Discovers names' c d := by
  obtain ⟨productions, new, queues, named⟩ := h
  exact ⟨productions, new, queues, fun q member => le _ (named q member)⟩

/-! ### The worklist -/

/-- Every production met so far has its code or waits for it. All are different productions of the grammar
that can be reached. -/
structure Ledger (g : Grammar E) (done : List String) (c : Compilation E) : Prop where
  productions : c.productions = g.productions
  met : (c.entries.map (·.1)).Perm (done ++ c.pending.map (·.name))
  distinct : (c.entries.map (·.1)).Nodup
  waiting : ∀ q ∈ c.pending, g.get? q.name = some q.body
  entered : ∀ q ∈ c.pending, c.entries.lookup q.name = some q.entry
  reached : ∀ name ∈ c.entries.map (·.1), g.Reached name
  defined : ∀ name ∈ c.entries.map (·.1), name ∈ g.productions.map (·.1)

namespace Ledger

variable {g : Grammar E} {done : List String} {q : PendingProduction E}
  {rest : List (PendingProduction E)}

theorem length_le (h : Ledger g done c) :
    done.length + c.pending.length ≤ g.productions.length := by
  have le := (h.distinct.subperm fun name member => h.defined name member).length_le
  have met := h.met.length_eq
  simp only [List.length_map, List.length_append] at le met
  omega

theorem start (g : Grammar E) (limit : Nat) : Ledger g [] (.start g.productions limit) := by
  constructor <;> simp [Compilation.start]

theorem discover (h : Ledger g done c) (discovers : Discovers g.Reached c d) : Ledger g done d := by
  obtain ⟨productions, new, queues, named⟩ := discovers
  have names : d.entries.map (·.1) = new.map (·.name) ++ c.entries.map (·.1) := by
    simp [queues.entries]
  have bodies (q : PendingProduction E) (member : q ∈ new) : g.get? q.name = some q.body := by
    have body := queues.bodies q member
    rwa [h.productions] at body
  have distinct := queues.distinct h.distinct
  refine ⟨productions.trans h.productions, ?_, distinct, fun q member => ?_, fun q member => ?_,
    fun name member => ?_, fun name member => ?_⟩
  · rw [names, queues.pending, List.map_append]
    exact (h.met.append_left _).trans (List.perm_append_comm_assoc _ _ _)
  · rw [queues.pending, List.mem_append] at member
    rcases member with member | member
    · exact bodies q member
    · exact h.waiting q member
  · rw [queues.pending, List.mem_append] at member
    rw [lookup_iff_mem distinct, queues.entries, List.mem_append]
    rcases member with member | member
    · exact .inl (List.mem_map_of_mem (f := fun q => (q.name, q.entry)) member)
    · exact .inr ((lookup_iff_mem h.distinct).mp (h.entered q member))
  · rw [names, List.mem_append] at member
    rcases member with member | member
    · obtain ⟨q, new, rfl⟩ := List.mem_map.mp member
      exact named q new
    · exact h.reached name member
  · rw [names, List.mem_append] at member
    rcases member with member | member
    · obtain ⟨q, new, rfl⟩ := List.mem_map.mp member
      exact lookup_mem (bodies q new)
    · exact h.defined name member

theorem pop (h : Ledger g done c) (pending : c.pending = q :: rest) :
    Ledger g (done ++ [q.name]) { c with pending := rest } := by
  have waits (q' : PendingProduction E) (member : q' ∈ rest) : q' ∈ c.pending := by
    rw [pending]
    exact List.mem_cons_of_mem q member
  have met := h.met
  rw [pending] at met
  exact { h with
    met := by simpa using met
    waiting := fun q' member => h.waiting q' (waits q' member)
    entered := fun q' member => h.entered q' (waits q' member) }

/-- What the code of a production calls can be reached. -/
theorem calls (h : Ledger g done c) (pending : c.pending = q :: rest) {name : String}
    (member : name ∈ q.body.callees) : g.Reached name := by
  have waits : q ∈ c.pending := by simp [pending]
  have met : q.name ∈ c.entries.map (·.1) :=
    h.met.mem_iff.mpr (List.mem_append_right _ (List.mem_map_of_mem waits))
  exact (h.reached q.name met).tail ⟨q.body, h.waiting q waits, member⟩

variable [DecidableEq E]

theorem produce (h : Ledger g done c) (pending : c.pending = q :: rest)
    (produced : { c with pending := rest }.emitProduction q = .ok d) :
    Ledger g (done ++ [q.name]) d := by
  have meets := meets_production q { c with pending := rest }
  rw [produced] at meets
  exact (h.pop pending).discover (Discovers.mono meets fun _ => h.calls pending)

theorem undefined {name : String} (h : Ledger g done c) (pending : c.pending = q :: rest)
    (rejected : { c with pending := rest }.emitProduction q =
      .error (.error (.undefinedProduction name))) : g.Reached name ∧ g.get? name = none := by
  have meets := meets_production q { c with pending := rest }
  rw [rejected] at meets
  obtain ⟨member, missing⟩ := meets name rfl
  rw [h.productions] at missing
  exact ⟨h.calls pending member, missing⟩

end Ledger

section

variable [DecidableEq E] {g : Grammar E} {done : List String} {rounds limit : Nat}

theorem openGrammar_ledger (h : openGrammar g (.start g.productions limit) = .ok c) :
    Ledger g [] c := by
  have meets := meets_open g (.start g.productions limit)
  rw [h] at meets
  have discovers : Discovers (· = g.start) (start g.productions limit) c := meets
  refine (Ledger.start g limit).discover (discovers.mono ?_)
  rintro _ rfl
  exact .refl

/-- More rounds than there are productions make no difference. -/
theorem emitPending_enough (h : Ledger g done c)
    (enough : g.productions.length ≤ done.length + rounds) :
    emitPending (rounds + 1) c = emitPending rounds c := by
  induction rounds generalizing c done with
  | zero =>
    have le := h.length_le
    have nothing : c.pending = [] := List.eq_nil_of_length_eq_zero (by omega)
    simp only [emitPending, nothing]
  | succ rounds ih =>
    cases pending : c.pending with
    | nil => simp only [emitPending, pending]
    | cons q rest =>
      rw [emitPending, emitPending]
      simp only [pending]
      cases produced : { c with pending := rest }.emitProduction q with
      | error e => rfl
      | ok d =>
        have length : (done ++ [q.name]).length = done.length + 1 := List.length_append
        exact ih (h.produce pending produced) (by omega)

/-- If there are enough rounds, nothing waits any more in the end. -/
theorem emitPending_done (h : Ledger g done c)
    (enough : g.productions.length ≤ done.length + rounds) (run : emitPending rounds c = .ok d) :
    d.pending = [] ∧ ∃ later, Ledger g (done ++ later) d := by
  induction rounds generalizing c done with
  | zero =>
    cases run
    have le := h.length_le
    exact ⟨List.eq_nil_of_length_eq_zero (by omega), [], by rwa [List.append_nil]⟩
  | succ rounds ih =>
    cases pending : c.pending with
    | nil =>
      cases emitPending_nil run pending
      exact ⟨pending, [], by rwa [List.append_nil]⟩
    | cons q rest =>
      obtain ⟨c', produced, run⟩ := emitPending_cons run pending
      have length : (done ++ [q.name]).length = done.length + 1 := List.length_append
      obtain ⟨nothing, later, ledger⟩ := ih (h.produce pending produced) (by omega) run
      exact ⟨nothing, q.name :: later, by simpa using ledger⟩

theorem emitPending_undefined {name : String} (h : Ledger g done c)
    (rejected : emitPending rounds c = .error (.error (.undefinedProduction name))) :
    g.Reached name ∧ g.get? name = none := by
  induction rounds generalizing c done with
  | zero => cases rejected
  | succ rounds ih =>
    simp only [emitPending] at rejected
    cases pending : c.pending with
    | nil => simp [pending] at rejected
    | cons q rest =>
      simp only [pending] at rejected
      rcases bind_eq_error.mp rejected with rejected | ⟨d, produced, rejected⟩
      · exact h.undefined pending rejected
      · exact ih (h.produce pending produced) rejected

end

end Compilation

end PatternMachine

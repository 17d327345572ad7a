import Mathlib.Data.List.Perm.Subperm
import PatternMachine.Compilation.Grammar
import PatternMachine.Proofs.Layout.Pattern

/-! The program of a pattern is its code and an acceptance. The program of a grammar jumps to the start
production; every production that is called has its code as a function. -/
namespace PatternMachine

variable {E : Type}

/-- The code of a production, from its entry to its return. -/
def Program.Function (p : Program E) (entry : String → Option Address) (name : String)
    (body : Pattern E) (at_ : Nat) : Prop :=
  ∃ comment hi, p.operation? at_ = some (.nop (some comment)) ∧
    p.strings[comment.index]? = some name ∧ body.Placed p entry (at_ + 1) hi ∧
    p.operation? hi = some .ret

/-- The program of a grammar whose productions are entered at `entry`. -/
structure Grammar.Placed (g : Grammar E) (p : Program E) (entry : String → Option Address) :
    Prop where
  start : ∃ a, entry g.start = some a ∧ p.operation? 0 = some (.branch a)
  functions : ∀ name a, entry name = some a →
    ∃ body, g.productions.lookup name = some body ∧ p.Function entry name body a.index

namespace Compilation

variable {c d final : Compilation E} {p : Program E} {n : Nat}

/-- Capture groups have the registers of their indexes. -/
def Grouped (captures : Array CaptureRegister) (count : Nat) : Prop :=
  ∀ (i : Nat) register, captures[i]? = some register → register = ⟨i⟩ ∧ i < count

theorem makeCaptures_spec (h : makeCaptures n c = .ok d)
    (count : c.captures.size = c.assembler.nextCapture.index)
    (groups : Grouped c.captures c.assembler.nextCapture.index) :
    ∃ assembler captures, d = { c with assembler, captures } ∧
      assembler.lines = c.assembler.lines ∧
      assembler.nextCapture.index = c.assembler.nextCapture.index + n ∧
      Grouped captures assembler.nextCapture.index := by
  induction n generalizing c with
  | zero => cases h; exact ⟨_, _, rfl, rfl, rfl, groups⟩
  | succ n ih =>
    obtain ⟨⟨register, assembler⟩, made, h⟩ := bind_eq_ok.mp h
    obtain ⟨-, eq, next, lines⟩ := Assembler.makeCaptureRegister_spec (lift_eq_ok.mp made)
    subst eq
    have count' : (c.captures.push c.assembler.nextCapture).size = assembler.nextCapture.index := by
      rw [Array.size_push, next, count]
    have groups' : Grouped (c.captures.push c.assembler.nextCapture) assembler.nextCapture.index := by
      intro i register known
      rcases Array.getElem?_push.symm.trans known with found
      split at found
      next last =>
        cases found
        exact ⟨by rw [last, count], by omega⟩
      next =>
        obtain ⟨eq, below⟩ := groups i register found
        exact ⟨eq, by omega⟩
    obtain ⟨assembler', captures, rfl, lines', count'', numbered⟩ := ih h count' groups'
    refine ⟨assembler', captures, rfl, lines'.trans lines, ?_, numbered⟩
    have count'' : assembler'.nextCapture.index = assembler.nextCapture.index + n := count''
    omega

/-- Before anything is emitted there are the registers of the capture groups and nothing else. -/
structure Fresh (c : Compilation E) (productions : List (String × Pattern E)) (groups : Nat) :
    Prop where
  size : c.size = 0
  productions : c.productions = productions
  entries : c.entries = []
  pending : c.pending = []
  progress : c.progress = none
  count : c.assembler.nextCapture.index = groups
  numbered : Grouped c.captures groups

theorem makeCaptures_fresh {productions : List (String × Pattern E)} {limit : Nat}
    (h : makeCaptures n (.start productions limit) = .ok c) : c.Fresh productions n := by
  obtain ⟨assembler, captures, rfl, lines, count, numbered⟩ :=
    makeCaptures_spec h rfl fun i register known => by simp [start] at known
  have count : assembler.nextCapture.index = n := count.trans (Nat.zero_add n)
  exact ⟨congrArg Array.size lines, rfl, rfl, rfl, rfl, count, count ▸ numbered⟩

theorem Fresh.fits {productions : List (String × Pattern E)} (h : c.Fresh productions n) :
    c.Fits := by
  refine ⟨fun register known => ?_, h.count ▸ h.numbered⟩
  rw [h.progress] at known
  cases known

end Compilation

open Compilation

/-! ### Patterns -/

/-- The program of a pattern, without references. -/
structure Pattern.Compiled (q : Pattern E) (p : Program E) (hi : Nat) : Prop where
  placed : q.Placed p (fun _ => none) 0 hi
  accepts : p.operation? hi = some .accept
  groups : p.registers.captures = q.captureCount

theorem Pattern.compile_placed [DecidableEq E] {q : Pattern E} {limit : Nat} {p : Program E}
    (h : q.compile limit = .ok p) : ∃ hi, q.Compiled p hi := by
  obtain ⟨a, made, h⟩ := bind_eq_ok.mp h
  obtain ⟨b, emitted, h⟩ := bind_eq_ok.mp h
  obtain ⟨c, accepted, h⟩ := bind_eq_ok.mp h
  obtain ⟨final, checked, h⟩ := bind_eq_ok.mp h
  cases checkSize_eq checked
  have assembled := lift_eq_ok.mp h
  have fresh := makeCaptures_fresh made
  obtain ⟨adds, inside⟩ := q.emit_placed assembled 0 a b (Nat.zero_le _) emitted
  obtain ⟨adds', -⟩ : Adds c p 0 b c ∧ c.size = b.size + 1 :=
    emit_quiet assembled accepted (by simp)
  have grows := adds.toExtends.trans adds'.toExtends
  obtain ⟨_, accepts, rfl⟩ := emit_stands assembled accepted (.refl c)
  obtain ⟨new, queues⟩ := (adds.trans adds').queues
  have nothing : c.entryOf = fun _ => none := by
    have none_new : new = [] := List.eq_nil_iff_forall_not_mem.mpr fun q member => by
      have body := queues.bodies q member
      rw [fresh.productions] at body
      cases body
    have entries : c.entries = [] := by rw [queues.entries, none_new, fresh.entries]; rfl
    funext name
    rw [entryOf, entries]
    rfl
  have placed := inside adds'.toExtends fresh.fits
  rw [nothing, fresh.size] at placed
  exact ⟨b.size, placed, accepts, (grows.registers_eq assembled).trans fresh.count⟩

/-! ### Grammars -/

namespace Compilation

variable {c d final : Compilation E} {p : Program E}

/-- The production has its code at the address its token is bound to. -/
def Stands (final : Compilation E) (p : Program E) (name : String) (token : Token) : Prop :=
  ∃ a body, final.assembler.address? token = some a ∧ final.productions.lookup name = some body ∧
    p.Function final.entryOf name body a.index

/-- Every production met so far waits for its code or has it, and none was met twice. -/
structure Books (final : Compilation E) (p : Program E) (c : Compilation E) (emitted : Nat) :
    Prop where
  known : ∀ name token, c.entries.lookup name = some token →
    (∃ q ∈ c.pending, q.name = name ∧ q.entry = token) ∨ Stands final p name token
  waiting : ∀ q ∈ c.pending, c.productions.lookup q.name = some q.body
  distinct : (c.entries.map (·.1)).Nodup
  defined : ∀ name ∈ c.entries.map (·.1), name ∈ c.productions.map (·.1)
  count : c.entries.length = emitted + c.pending.length

theorem lookup_mem {α : Type} {entries : List (String × α)} {name : String} {a : α}
    (h : entries.lookup name = some a) : name ∈ entries.map (·.1) := by
  have found : (entries.lookup name).isSome := by rw [h]; rfl
  obtain ⟨q, member, same⟩ := List.lookup_isSome_iff.mp found
  exact List.mem_map.mpr ⟨q, member, (beq_iff_eq.mp same).symm⟩

/-- There are no more productions to emit than there are. -/
theorem Books.length_le {emitted : Nat} (h : Books final p c emitted) :
    emitted + c.pending.length ≤ c.productions.length := by
  have le := (h.distinct.subperm fun name member => h.defined name member).length_le
  simpa [h.count] using le

theorem Books.stands {emitted : Nat} (h : Books final p c emitted) (nothing : c.pending = [])
    (name : String) (token : Token) (found : c.entries.lookup name = some token) :
    Stands final p name token := by
  rcases h.known name token found with ⟨q, member, -⟩ | stands
  · rw [nothing] at member; cases member
  · exact stands

theorem Books.grow {emitted : Nat} {new : List (PendingProduction E)} (h : Books final p c emitted)
    (queues : Queues c d new) (productions : d.productions = c.productions) :
    Books final p d emitted where
  known name token known := by
    rw [queues.pending]
    rw [queues.entries, List.lookup_append, Option.or_eq_some_iff] at known
    rcases known with found | ⟨-, found⟩
    · obtain ⟨before, after, eq, -⟩ := List.lookup_eq_some_iff.mp found
      have member : (name, token) ∈ new.map fun q => (q.name, q.entry) :=
        eq ▸ List.mem_append_right before List.mem_cons_self
      obtain ⟨q, member, eq⟩ := List.mem_map.mp member
      exact .inl ⟨q, List.mem_append_left _ member, congrArg (·.1) eq, congrArg (·.2) eq⟩
    · rcases h.known name token found with ⟨q, member, eq⟩ | stands
      · exact .inl ⟨q, List.mem_append_right _ member, eq⟩
      · exact .inr stands
  waiting q member := by
    rw [productions]
    rw [queues.pending] at member
    rcases List.mem_append.mp member with member | member
    · exact queues.bodies q member
    · exact h.waiting q member
  distinct := queues.distinct h.distinct
  defined name member := by
    rw [productions]
    rw [queues.entries, List.map_append, List.mem_append] at member
    rcases member with member | member
    · obtain ⟨entry, listed, rfl⟩ := List.mem_map.mp member
      obtain ⟨q, waits, rfl⟩ := List.mem_map.mp listed
      exact lookup_mem (queues.bodies q waits)
    · exact h.defined name member
  count := by
    have count := h.count
    rw [queues.entries, queues.pending, List.length_append, List.length_append, List.length_map]
    omega

/-- The first production in the line leaves it with its code. -/
theorem Books.pop {emitted : Nat} {q : PendingProduction E} {rest : List (PendingProduction E)}
    (h : Books final p c emitted) (pending : c.pending = q :: rest)
    (stands : Stands final p q.name q.entry) :
    Books final p { c with pending := rest } (emitted + 1) where
  known name token known := by
    rcases h.known name token known with ⟨q', member, rfl, rfl⟩ | stood
    · rw [pending] at member
      rcases List.mem_cons.mp member with rfl | member
      · exact .inr stands
      · exact .inl ⟨q', member, rfl, rfl⟩
    · exact .inr stood
  waiting q' member := h.waiting q' (pending ▸ List.mem_cons_of_mem q member)
  distinct := h.distinct
  defined := h.defined
  count := by
    have count := h.count
    rw [pending, List.length_cons] at count
    exact count.trans (Nat.add_right_comm emitted rest.length 1)

theorem Extends.of_pop {rest : List (PendingProduction E)}
    (h : Extends { c with pending := rest } d) : c.Extends d :=
  ⟨h.assembler, h.captures, h.productions, h.entries, fun fits => h.fits ⟨fits.1, fits.2⟩, h.groups⟩

section

variable [DecidableEq E] (assembled : final.assembler.assemble = .ok p)

theorem emitPending_cons {rounds : Nat} {q : PendingProduction E}
    {rest : List (PendingProduction E)} (h : emitPending (rounds + 1) c = .ok d)
    (pending : c.pending = q :: rest) :
    ∃ c', { c with pending := rest }.emitProduction q = .ok c' ∧ emitPending rounds c' = .ok d := by
  simp only [emitPending, pending] at h
  exact bind_eq_ok.mp h

theorem emitPending_nil {rounds : Nat} (h : emitPending rounds c = .ok d)
    (nothing : c.pending = []) : d = c := by
  cases rounds with
  | zero => cases h; rfl
  | succ rounds =>
    simp only [emitPending, nothing] at h
    cases h
    rfl

include assembled

theorem emitProduction_spec {q : PendingProduction E} (h : c.emitProduction q = .ok d) :
    Adds final p 0 c d ∧ (d.Extends final → c.Fits →
      final.assembler.address? q.entry = some ⟨c.size⟩ ∧
        ∃ comment mid, d.size = mid + 1 ∧ p.operation? c.size = some (.nop (some comment)) ∧
          p.strings[comment.index]? = some q.name ∧
          q.body.Placed p final.entryOf (c.size + 1) mid ∧ p.operation? mid = some .ret) := by
  obtain ⟨c₁, marked, h⟩ := bind_eq_ok.mp h
  obtain ⟨c₂, named, h⟩ := bind_eq_ok.mp h
  obtain ⟨c₃, inner, returns⟩ := bind_eq_ok.mp h
  obtain ⟨adds₁, size₁, bound⟩ := label_adds marked
  obtain ⟨adds₂, size₂⟩ := emit_quiet assembled named (by simp)
  obtain ⟨adds₃, inside⟩ := q.body.emit_placed assembled 0 c₂ c₃ (Nat.zero_le _) inner
  obtain ⟨adds_d, size_d⟩ := emit_quiet assembled returns (by simp)
  refine ⟨adds₁.trans (adds₂.trans (adds₃.trans adds_d)), fun grows fits => ?_⟩
  have grows₃ := adds_d.toExtends.trans grows
  have grows₂ := adds₃.toExtends.trans grows₃
  obtain ⟨_, place, r, rfl, text⟩ := emit_stands assembled named grows₂
  obtain ⟨_, last, rfl⟩ := emit_stands assembled returns grows
  have body := inside grows₃ (adds₂.fits (adds₁.fits fits))
  have entered := (adds₂.toExtends.trans grows₂).assembler.address _ _ bound
  rw [size₂, size₁] at body
  rw [size₁] at place
  cases r with
  | none => cases text
  | some comment => exact ⟨entered, comment, c₃.size, size_d, place, Option.some.inj text, body, last⟩

theorem emitPending_extends {rounds : Nat} (h : emitPending rounds c = .ok d) : c.Extends d := by
  induction rounds generalizing c with
  | zero => cases h; exact .refl _
  | succ rounds ih =>
    cases pending : c.pending with
    | nil => cases emitPending_nil h pending; exact .refl _
    | cons q rest =>
      obtain ⟨c', produced, h⟩ := emitPending_cons h pending
      exact (emitProduction_spec assembled produced).1.toExtends.of_pop.trans (ih h)

/-- The rounds are enough: in the end every production that was met has its code. -/
theorem emitPending_stands {rounds emitted : Nat} (h : emitPending rounds c = .ok final)
    (fits : c.Fits) (books : Books final p c emitted)
    (enough : rounds + emitted = c.productions.length) :
    ∀ name token, final.entries.lookup name = some token → Stands final p name token := by
  induction rounds generalizing c emitted with
  | zero =>
    cases h
    have le := books.length_le
    exact books.stands (List.eq_nil_of_length_eq_zero (by omega))
  | succ rounds ih =>
    cases pending : c.pending with
    | nil => cases emitPending_nil h pending; exact books.stands pending
    | cons q rest =>
      obtain ⟨c', produced, h⟩ := emitPending_cons h pending
      obtain ⟨adds, stands⟩ := emitProduction_spec assembled produced
      have grows : c.Extends c' := adds.toExtends.of_pop
      have grows' := emitPending_extends assembled h
      obtain ⟨bound, comment, mid, -, code⟩ := stands grows' ⟨fits.progress, fits.captures⟩
      have function : p.Function final.entryOf q.name q.body c.size := ⟨comment, mid, code⟩
      have body := books.waiting q (pending ▸ List.mem_cons_self)
      rw [← (grows.trans grows').productions] at body
      obtain ⟨new, queues⟩ := adds.queues
      have books' := (books.pop pending ⟨_, _, bound, body, function⟩).grow queues grows.productions
      exact ih h (grows.fits fits) books' (by rw [grows.productions]; omega)

end

end Compilation

theorem Grammar.compile_placed [DecidableEq E] {g : Grammar E} {limit : Nat} {p : Program E}
    (h : g.compile limit = .ok p) :
    ∃ entry, g.Placed p entry ∧ p.registers.captures = g.captureCount := by
  obtain ⟨a, made, h⟩ := bind_eq_ok.mp h
  obtain ⟨⟨token, b⟩, entered, h⟩ := bind_eq_ok.mp h
  obtain ⟨c, jumped, h⟩ := bind_eq_ok.mp h
  obtain ⟨d, emitted, h⟩ := bind_eq_ok.mp h
  obtain ⟨d', checked, h⟩ := bind_eq_ok.mp h
  cases checkSize_eq checked
  have assembled := lift_eq_ok.mp h
  have fresh := makeCaptures_fresh made
  obtain ⟨adds, size, known⟩ : Adds d p 0 a b ∧ b.size = a.size ∧
    b.entries.lookup g.start = some token := entry_adds entered
  obtain ⟨adds', -⟩ : Adds d p 0 b c ∧ c.size = b.size + 1 :=
    emit_quiet assembled jumped (by simp)
  have both := adds.trans adds'
  have grows := emitPending_extends assembled emitted
  have nothing : Books d p a 0 := by
    refine ⟨fun name token found => ?_, ?_, ?_, ?_, ?_⟩
    · rw [fresh.entries] at found; cases found
    all_goals simp [fresh.entries, fresh.pending]
  obtain ⟨new, queues⟩ := both.queues
  have stands := emitPending_stands assembled emitted (both.fits fresh.fits)
    (nothing.grow queues both.productions) (by rw [both.productions, fresh.productions]; rfl)
  have productions := (both.toExtends.trans grows).productions
  refine ⟨d.entryOf, ⟨?_, fun name address entered => ?_⟩, ?_⟩
  · obtain ⟨_, place, address, rfl, bound⟩ := emit_stands assembled jumped grows
    have found := (adds'.toExtends.trans grows).entries _ _ known
    refine ⟨address, by rw [entryOf, found]; exact bound, ?_⟩
    rwa [size, fresh.size] at place
  · obtain ⟨token, found, bound⟩ := Option.bind_eq_some_iff.mp entered
    obtain ⟨address', body, bound', defined, function⟩ := stands name token found
    cases bound.symm.trans bound'
    exact ⟨body, by rw [← defined, productions, fresh.productions], function⟩
  · exact ((both.toExtends.trans grows).registers_eq assembled).trans fresh.count

end PatternMachine

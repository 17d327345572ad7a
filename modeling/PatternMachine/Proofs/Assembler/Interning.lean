import Mathlib.Data.List.Nodup
import PatternMachine.Proofs.Assembler.History

/-! Elements and strings are interned. A pool lists its values in the order in which they first came, and
the register of a value stands for it in every larger pool. -/
namespace PatternMachine

variable {E : Type}

/-! ### Pools -/

/-- The pool lists the values in the order in which they first come. -/
structure Pool.Lists {α : Type} [DecidableEq α] (pool : Pool α) (values : List α) : Prop where
  items : pool.items.toList = values.eraseDups
  distinct : pool.items.toList.Nodup

namespace Pool.Lists

variable {α : Type} [DecidableEq α] {pool : Pool α} {values : List α}

theorem empty : (Pool.empty : Pool α).Lists [] := ⟨rfl, .nil⟩

theorem intern (h : pool.Lists values) (a : α) : (pool.intern a).2.Lists (values ++ [a]) := by
  have member : a ∈ pool.items ↔ a ∈ values := by
    rw [← Array.mem_toList_iff, h.items, List.mem_eraseDups]
  unfold Pool.intern
  split
  next index found =>
    -- A value that is listed already is left out of the values as well.
    have old : a ∈ values := by
      apply member.mp
      apply Classical.byContradiction
      intro new
      rw [Array.idxOf?_eq_none_iff.mpr new] at found
      cases found
    refine ⟨?_, h.distinct⟩
    rw [h.items, List.eraseDups_append]
    simp [List.removeAll, old]
  next missing =>
    have new : a ∉ pool.items := Array.idxOf?_eq_none_iff.mp missing
    have fresh : a ∉ values := fun old => new (member.mpr old)
    constructor
    · have last : [a].eraseDups = [a] := rfl
      simp [h.items, List.eraseDups_append, List.removeAll, fresh, last]
    · rw [Array.toList_push, List.nodup_append]
      refine ⟨h.distinct, List.nodup_singleton a, ?_⟩
      rintro b known _ single rfl
      cases List.mem_singleton.mp single
      exact new (Array.mem_toList_iff.mp known)

theorem intern? (h : pool.Lists values) (named : Option α) :
    (named.elim pool fun a => (pool.intern a).2).Lists (values ++ named.toList) := by
  cases named with
  | none => simpa using h
  | some a => exact h.intern a

theorem ofList (values : List α) : (Pool.ofList values).Lists values := by
  have each (rest : List α) {pool : Pool α} {values : List α} (h : pool.Lists values) :
      (rest.foldl (fun pool a => (pool.intern a).2) pool).Lists (values ++ rest) := by
    induction rest generalizing pool values with
    | nil => simpa using h
    | cons a rest ih => simpa using ih (h.intern a)
  exact each values .empty

/-- No value has two places. -/
theorem place_unique (h : pool.Lists values) {i j : Nat} {a : α} (first : pool.items[i]? = some a)
    (second : pool.items[j]? = some a) : i = j := by
  rw [← Array.getElem?_toList] at first second
  obtain ⟨_, same⟩ := List.getElem?_eq_some_iff.mp first
  obtain ⟨_, same'⟩ := List.getElem?_eq_some_iff.mp second
  exact (List.Nodup.getElem_inj_iff h.distinct).mp (same.trans same'.symm)

end Pool.Lists

/-! ### Registers of constants -/

/-- A value that is interned. -/
inductive Constant (E : Type) where
  | element (e : E)
  | string (text : String)

/-- The constant that a statement names. -/
def Statement.constant? : Statement E → Option (Constant E)
  | .nop text | .abort text => text.map .string
  | .print text => some (.string text)
  | .matchElement e | .assertion e _ => some (.element e)
  | _ => none

/-- The constant that an operation refers to. -/
def Operation.constant? : Operation → Option AnyHandle
  | .matchElement r | .assertion r _ => some ⟨_, r⟩
  | op => op.string?.map (⟨_, ·⟩)

namespace Constant

def element? : Constant E → Option E
  | element e => some e
  | string _ => none

def string? : Constant E → Option String
  | element _ => none
  | string text => some text

/-- The value that a register stands for, given the pools. -/
def at? (elements : Array E) (strings : Array String) : AnyHandle → Option (Constant E)
  | ⟨.payload .element, r⟩ => elements[r.index]?.map element
  | ⟨.payload .string, r⟩ => strings[r.index]?.map string
  | _ => none

variable {elements : Array E} {strings : Array String} {r : AnyHandle}

theorem at?_eq_element {e : E} :
    at? elements strings r = some (.element e) ↔
      ∃ i, r = ⟨.payload .element, ⟨i⟩⟩ ∧ elements[i]? = some e := by
  constructor
  · intro known
    unfold at? at known
    split at known
    · simp only [Option.map_eq_some_iff, element.injEq, exists_eq_right] at known
      exact ⟨_, rfl, known⟩
    · simp at known
    · cases known
  · rintro ⟨i, rfl, place⟩
    simp [at?, place]

theorem at?_eq_string {text : String} :
    at? elements strings r = some (.string text) ↔
      ∃ i, r = ⟨.payload .string, ⟨i⟩⟩ ∧ strings[i]? = some text := by
  constructor
  · intro known
    unfold at? at known
    split at known
    · simp at known
    · simp only [Option.map_eq_some_iff, string.injEq, exists_eq_right] at known
      exact ⟨_, rfl, known⟩
    · cases known
  · rintro ⟨i, rfl, place⟩
    simp [at?, place]

end Constant

def Program.constant? (p : Program E) (r : AnyHandle) : Option (Constant E) :=
  Constant.at? p.elements p.strings r

namespace Assembler

variable {a b final : Assembler E} {p : Program E} {c c' : Constant E} {r r' : AnyHandle}

def constant? (a : Assembler E) (r : AnyHandle) : Option (Constant E) :=
  Constant.at? a.elements.items a.strings.items r

theorem Extends.constant? (grows : a.Extends b) (known : a.constant? r = some c) :
    b.constant? r = some c := by
  cases c with
  | element e =>
    obtain ⟨i, rfl, place⟩ := Constant.at?_eq_element.mp known
    exact Constant.at?_eq_element.mpr ⟨i, rfl, grows.elements i e place⟩
  | string text =>
    obtain ⟨i, rfl, place⟩ := Constant.at?_eq_string.mp known
    exact Constant.at?_eq_string.mpr ⟨i, rfl, grows.strings i text place⟩

theorem assemble_constant? (assembled : a.assemble = .ok p) : p.constant? r = a.constant? r := by
  obtain ⟨elements, strings, -⟩ := assemble_spec assembled
  rw [Program.constant?, elements, strings]
  rfl

/-- Pools without duplicates have one register for each value. -/
theorem constant?_unique [DecidableEq E] {elements : List E} {strings : List String}
    (h : a.elements.Lists elements) (h' : a.strings.Lists strings)
    (known : a.constant? r = some c) (known' : a.constant? r' = some c') : r = r' ↔ c = c' := by
  constructor
  · rintro rfl
    exact Option.some.inj (known.symm.trans known')
  · rintro rfl
    cases c with
    | element e =>
      obtain ⟨i, rfl, place⟩ := Constant.at?_eq_element.mp known
      obtain ⟨j, rfl, place'⟩ := Constant.at?_eq_element.mp known'
      rw [h.place_unique place place']
    | string text =>
      obtain ⟨i, rfl, place⟩ := Constant.at?_eq_string.mp known
      obtain ⟨j, rfl, place'⟩ := Constant.at?_eq_string.mp known'
      rw [h'.place_unique place place']

/-- Interns a constant of either kind. -/
def intern [DecidableEq E] (a : Assembler E) : Constant E → AnyHandle × Assembler E
  | .element e => (⟨_, (a.internElement e).1⟩, (a.internElement e).2)
  | .string text => (⟨_, (a.internString text).1⟩, (a.internString text).2)

theorem intern_constant? [DecidableEq E] (a : Assembler E) (c : Constant E) :
    (a.intern c).2.constant? (a.intern c).1 = some c := by
  cases c with
  | element e => exact Constant.at?_eq_element.mpr ⟨_, rfl, a.elements.intern_getElem? e⟩
  | string text => exact Constant.at?_eq_string.mpr ⟨_, rfl, a.strings.intern_getElem? text⟩

/-- A line without a target is read as it is. -/
theorem assemble_plain (assembled : final.assemble = .ok p) {i : Nat} {line : Line} {op : Operation}
    (known : final.lines[i]? = some line) (plain : line.target = none)
    (decoded : line.instruction.decode = .ok op) : p.operation? i = some op := by
  obtain ⟨-, -, -, -, -, -, -, lines⟩ := assemble_spec assembled
  obtain ⟨instruction, linked, place⟩ := lines i line known
  rw [link, plain] at linked
  cases linked
  simp [Program.operation?, place, decoded, Except.toOption]

/-- A statement interns the constant that it names, if it names one, and adds a line with its
register. -/
theorem emit_interns [DecidableEq E] {st : Statement E} (emitted : a.emit st = .ok b) :
    ∃ line, b = { (st.constant?.elim a fun c => (a.intern c).2) with lines := a.lines.push line } ∧
      ∀ c, st.constant? = some c → line.target = none ∧
        ∃ op, line.instruction.decode = .ok op ∧ op.constant? = some (a.intern c).1 := by
  cases st
  case nop text | abort text =>
    obtain ⟨i, made, pushed⟩ := bind_eq_ok.mp emitted
    cases push_eq pushed
    cases text with
    | none => exact ⟨_, rfl, nofun⟩
    | some text =>
      refine ⟨_, rfl, ?_⟩
      rintro c ⟨rfl⟩
      exact ⟨rfl, _, (Instruction.make_carries made).decode rfl, rfl⟩
  case print text | matchElement e | assertion e condition =>
    obtain ⟨i, made, pushed⟩ := bind_eq_ok.mp emitted
    cases push_eq pushed
    refine ⟨_, rfl, ?_⟩
    rintro c ⟨rfl⟩
    exact ⟨rfl, _, (Instruction.make_carries made).decode rfl, rfl⟩
  all_goals
    obtain ⟨i, made, pushed⟩ := bind_eq_ok.mp emitted
    cases push_eq pushed
    exact ⟨_, rfl, nofun⟩

end Assembler

end PatternMachine

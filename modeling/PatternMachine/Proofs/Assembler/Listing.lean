import Mathlib.Data.List.Forall2
import PatternMachine.Proofs.Assembler.Linking
import PatternMachine.Proofs.Instruction.Showing
import PatternMachine.Proofs.Machine.Decodable

/-! A listing can be read back. Its instruction lines, with the notes behind the instructions, determine
the words of the program, and all words of an assembled program are of the kind that is shown in full. -/
namespace PatternMachine

variable {E F : Type}

/-! ### Lines -/

/-- A line shows an instruction: without its label and its notes it is the text of the instruction. -/
def Instruction.ShownIn (i : Instruction) (line : String) : Prop :=
  ∃ text body, i.text = .ok text ∧ line.toList = body ++ ['\n'] ∧ '\n' ∉ body ∧
    Text.noted body = text.toList

namespace Program

/-- Every word of the code is well formed. -/
def WellFormed (p : Program E) : Prop := ∀ i ∈ p.code, i.WellFormed

instance (p : Program E) : Decidable p.WellFormed :=
  inferInstanceAs (Decidable (∀ i ∈ p.code, i.WellFormed))

/-- The lines of a listing that show instructions. -/
def instructionLines (p : Program E) : Except Fault (List String) :=
  p.code.toList.zipIdx.mapM fun (i, address) => p.listingLine address i

/-- What a listing shows above the instructions. -/
def heading [Spelled E] (p : Program E) : String :=
  "elements: " ++ spell p.elements.toList ++ "\n" ++
    "strings: " ++ spell p.strings.toList ++ "\n" ++
    countLine "predicates" p.predicates.size ++
    countLine "consume functions" p.consumeFunctions.size

theorem listing_eq [Spelled E] (p : Program E) :
    p.listing = do return p.heading ++ String.join (← p.instructionLines) := rfl

variable {p : Program E} {i : Instruction} {address : Nat} {line note : String}

theorem stringNote_isNote {register : Option StringRegister}
    (shown : p.stringNote register = .ok note) : Text.IsNote note.toList := by
  unfold stringNote at shown
  split at shown
  · cases shown
    exact .empty
  · split at shown
    · cases shown
      rw [String.toList_append]
      exact .remark (Text.quote_unbroken _)
    · cases shown

theorem targetNote_isNote {target : Option Address} (h : p.WellFormed)
    (shown : p.targetNote target = .ok note) : Text.IsNote note.toList := by
  unfold targetNote at shown
  split at shown
  · cases shown
    exact .empty
  · split at shown
    next i there =>
      obtain ⟨text, known, shown⟩ := bind_eq_ok.mp shown
      cases shown
      rw [String.toList_append]
      exact .remark (Text.unbroken_of_words ((h i (Array.mem_of_getElem? there)).text_solid known))
    · cases shown
      exact .remark (show '\n' ∉ "<end>".toList by decide)

theorem listingLine_shows (h : p.WellFormed) (formed : i.WellFormed)
    (listed : p.listingLine address i = .ok line) : i.ShownIn line := by
  obtain ⟨text, known, listed⟩ := bind_eq_ok.mp listed
  obtain ⟨register, -, listed⟩ := bind_eq_ok.mp listed
  obtain ⟨string, spelled, listed⟩ := bind_eq_ok.mp listed
  obtain ⟨address', -, listed⟩ := bind_eq_ok.mp listed
  obtain ⟨target, pointed, listed⟩ := bind_eq_ok.mp listed
  cases listed
  have solids := formed.text_solid known
  have notes := (stringNote_isNote spelled).append (targetNote_isNote h pointed)
  let label := '[' :: (toString address).toList ++ [']']
  have label_solid : label.all Text.solid = true := by
    simp only [label, List.all_append, List.all_cons, Text.numeral_solid]
    rfl
  refine ⟨text, label ++ ' ' :: (text.toList ++ (string.toList ++ target.toList)), known, ?_, ?_, ?_⟩
  · simp [label]
  · have label_unbroken : '\n' ∉ label := fun broken => by
      cases List.all_eq_true.mp label_solid _ broken
    simp [label_unbroken, Text.unbroken_of_words solids, notes.unbroken]
  · exact Text.noted_line label_solid solids notes

theorem listingLines_show {is : List Instruction} {start : Nat} {lines : List String} (h : p.WellFormed)
    (formed : ∀ i ∈ is, i.WellFormed)
    (listed : ((is.zipIdx start).mapM fun (i, address) => p.listingLine address i) = .ok lines) :
    List.Forall₂ Instruction.ShownIn is lines := by
  induction is generalizing start lines with
  | nil => cases listed; exact .nil
  | cons i is ih =>
    rw [List.zipIdx_cons, List.mapM_cons] at listed
    obtain ⟨line, first, listed⟩ := bind_eq_ok.mp listed
    obtain ⟨rest, others, listed⟩ := bind_eq_ok.mp listed
    cases listed
    exact .cons (listingLine_shows h (formed i List.mem_cons_self) first)
      (ih (fun j member => formed j (List.mem_cons_of_mem _ member)) others)

/-- Every instruction has a line that shows it. -/
theorem instructionLines_show {lines : List String} (h : p.WellFormed)
    (listed : p.instructionLines = .ok lines) :
    List.Forall₂ Instruction.ShownIn p.code.toList lines :=
  listingLines_show h (fun i member => h i (Array.mem_toList_iff.mp member)) listed

end Program

/-- Lines that show well-formed words determine them, also where only the text of all lines is known. -/
theorem Instruction.ShownIn.all_unique {is js : List Instruction} {lines lines' : List String}
    (shows : List.Forall₂ ShownIn is lines) (shows' : List.Forall₂ ShownIn js lines')
    (formed : ∀ i ∈ is, i.WellFormed) (formed' : ∀ j ∈ js, j.WellFormed)
    (same : String.join lines = String.join lines') : is = js := by
  induction shows generalizing js lines' with
  | nil =>
    cases shows' with
    | nil => rfl
    | cons first _ =>
      obtain ⟨text, body, -, ended, -⟩ := first
      have chars := congrArg String.toList same
      simp [ended] at chars
  | cons first _ ih =>
    obtain ⟨text, body, known, ended, unbroken, noted⟩ := first
    cases shows' with
    | nil =>
      have chars := congrArg String.toList same
      simp [ended] at chars
    | cons first' rest' =>
      obtain ⟨text', body', known', ended', unbroken', noted'⟩ := first'
      have chars := congrArg String.toList same
      simp only [String.join_cons, String.toList_append, ended, ended', List.append_assoc,
        List.singleton_append] at chars
      obtain ⟨rfl, rests⟩ := Text.first_line_inj unbroken unbroken' chars
      have texts : text = text' := String.toList_inj.mp (noted.symm.trans noted')
      have words := (formed _ List.mem_cons_self).eq_of_text (formed' _ List.mem_cons_self)
        (by rw [known, known', texts])
      have others := ih rest' (fun i member => formed i (List.mem_cons_of_mem _ member))
        (fun j member => formed' j (List.mem_cons_of_mem _ member)) (String.toList_inj.mp rests)
      rw [words, others]

namespace Program

variable {p : Program E} {q : Program F}

/-- The instruction lines of a listing determine the code. -/
theorem code_eq_of_lines {lines lines' : List String} (h : p.WellFormed) (h' : q.WellFormed)
    (listed : p.instructionLines = .ok lines) (listed' : q.instructionLines = .ok lines')
    (same : String.join lines = String.join lines') : p.code = q.code := by
  apply Array.toList_inj.mp
  exact Instruction.ShownIn.all_unique (instructionLines_show h listed) (instructionLines_show h' listed')
    (fun i member => h i (Array.mem_toList_iff.mp member))
    (fun j member => h' j (Array.mem_toList_iff.mp member)) same

/-- Nothing but a string that is not there keeps a line from being shown. -/
theorem instructionLines_ok (h : p.WellFormed)
    (strings : ∀ i ∈ p.code, ∀ r, i.string? = .ok (some r) → r.index < p.strings.size) :
    ∃ lines, p.instructionLines = .ok lines := by
  have shown (i : Instruction) (member : i ∈ p.code) : ∃ text, i.text = .ok text := by
    obtain ⟨opcode, known, -⟩ := h i member
    exact Instruction.text_ok known
  refine mapM_ok fun line member => ?_
  have member : line.1 ∈ p.code := Array.mem_toList_iff.mp (List.fst_mem_of_mem_zipIdx member)
  obtain ⟨opcode, known, -⟩ := h _ member
  obtain ⟨string, named⟩ := Instruction.payloadOf?_ok .string known
  obtain ⟨target, jumps⟩ := Instruction.payloadOf?_ok .address known
  refine listingLine_ok shown member named jumps fun r there => ?_
  subst there
  exact strings _ member r named

end Program

/-! ### Assembled programs -/

/-- A line whose opcode takes what its word carries, and a target if the line waits for one. -/
def Line.WellFormed (line : Line) : Prop :=
  ∃ opcode payload condition, line.instruction.Carries opcode payload condition ∧
    (condition.isSome → opcode.takesCondition) ∧
    (payload.isSome ∨ line.target.isSome → opcode.payloadKind?.isSome)

namespace Assembler

variable {a b : Assembler E} {line : Line} {i : Instruction}

/-- Filling in a target keeps a word well formed. -/
theorem link_wellFormed {tokens : Array (Option Address)} (h : line.WellFormed)
    (linked : link tokens line = .ok i) : i.WellFormed := by
  obtain ⟨instruction, target⟩ := line
  obtain ⟨opcode, payload, condition, carries, conditional, takes⟩ := h
  unfold link at linked
  cases target with
  | none =>
    cases linked
    exact carries.wellFormed conditional fun there => takes (.inl there)
  | some token =>
    dsimp only at linked
    split at linked
    · cases linked
    · cases linked
    · obtain ⟨operand, set, linked⟩ := bind_eq_ok.mp linked
      cases linked
      exact (carries.setOperand set).wellFormed conditional fun _ => takes (.inr rfl)

theorem emit_wellFormed [DecidableEq E] {st : Statement E} (emitted : a.emit st = .ok b) :
    ∃ line, b.lines = a.lines.push line ∧ line.WellFormed := by
  cases st
  case clear | restore | ret | accept | fail =>
    obtain ⟨i, made, pushed⟩ := bind_eq_ok.mp emitted
    cases push_eq pushed
    exact ⟨_, rfl, _, _, _, Instruction.bare_carries made, nofun, by simp⟩
  case nop comment | abort comment =>
    obtain ⟨i, made, pushed⟩ := bind_eq_ok.mp emitted
    cases push_eq pushed
    cases comment <;> exact ⟨_, rfl, _, _, _, Instruction.make_carries made, nofun, fun _ => rfl⟩
  case condBranch condition target | assertion element condition | comparePosition register condition =>
    obtain ⟨i, made, pushed⟩ := bind_eq_ok.mp emitted
    cases push_eq pushed
    exact ⟨_, rfl, _, _, _, Instruction.make_carries made, fun _ => rfl, fun _ => rfl⟩
  all_goals
    obtain ⟨i, made, pushed⟩ := bind_eq_ok.mp emitted
    cases push_eq pushed
    exact ⟨_, rfl, _, _, _, Instruction.make_carries made, nofun, fun _ => rfl⟩

end Assembler

namespace Session

variable [DecidableEq E] {s s' : Session E} {call : Call E} {calls : List (Call E)}

/-- All lines so far are well formed. -/
def WellFormed (s : Session E) : Prop := ∀ line ∈ s.assembler.lines, line.WellFormed

/-- A call leaves the lines alone, adds one, or drops them all. -/
theorem WellFormed.perform (h : s.WellFormed) (performed : s.perform call = .ok s') : s'.WellFormed := by
  have kept (lines : s'.assembler.lines = s.assembler.lines) : s'.WellFormed := by
    rw [WellFormed, lines]
    exact h
  cases call with
  | emit st =>
    obtain ⟨b, emitted, done⟩ := bind_eq_ok.mp performed
    cases done
    obtain ⟨line, lines, formed⟩ := Assembler.emit_wellFormed emitted
    intro line' member
    rw [lines] at member
    rcases Array.mem_push.mp member with old | rfl
    · exact h line' old
    · exact formed
  | reset =>
    cases performed
    exact fun line member => absurd member (Array.not_mem_empty line)
  | label token =>
    obtain ⟨b, bound, done⟩ := bind_eq_ok.mp performed
    cases done
    exact kept (Assembler.bind_address bound).1
  | resolve token =>
    obtain ⟨b, bound, done⟩ := bind_eq_ok.mp performed
    cases done
    unfold Assembler.resolve at bound
    split at bound
    · cases bound
    · exact kept (Assembler.bind_address bound).1
  | makeBoolRegister =>
    obtain ⟨⟨register, b⟩, made, done⟩ := bind_eq_ok.mp performed
    cases done
    exact kept (Assembler.makeBoolRegister_spec made).2.2.1
  | makePositionRegister =>
    obtain ⟨⟨register, b⟩, made, done⟩ := bind_eq_ok.mp performed
    cases done
    exact kept (Assembler.makePositionRegister_spec made).2.2.2.1
  | makeCaptureRegister =>
    obtain ⟨⟨register, b⟩, made, done⟩ := bind_eq_ok.mp performed
    cases done
    exact kept (Assembler.makeCaptureRegister_spec made).2.2.2
  | assemble =>
    cases perform_assemble performed
    exact h
  | _ =>
    cases performed
    exact kept rfl

theorem WellFormed.replay (h : s.WellFormed) (replayed : s.replay calls = .ok s') : s'.WellFormed := by
  induction calls generalizing s with
  | nil => cases replayed; exact h
  | cons call calls ih =>
    obtain ⟨t, performed, replayed⟩ := replay_cons.mp replayed
    exact ih (h.perform performed) replayed

/-- Every word of an assembled program is well formed. -/
theorem assembled_wellFormed {elements : List E} {p : Program E}
    (replayed : (fresh elements).replay calls = .ok s) (assembled : s.assembler.assemble = .ok p) :
    p.WellFormed := by
  have start : (fresh elements).WellFormed := fun line member => absurd member (Array.not_mem_empty line)
  have formed := start.replay replayed
  intro i member
  obtain ⟨k, known⟩ := Array.getElem?_of_mem member
  have size : p.code.size = s.assembler.lines.size := Assembler.assemble_size assembled
  have inside : k < s.assembler.lines.size := size ▸ (Array.getElem?_eq_some_iff.mp known).1
  obtain ⟨-, -, -, -, -, -, -, linked⟩ := Assembler.assemble_spec assembled
  obtain ⟨i', filled, known'⟩ := linked k _ (Array.getElem?_eq_getElem inside)
  cases known.symm.trans known'
  exact Assembler.link_wellFormed (formed _ (Array.getElem_mem inside)) filled

end Session

/-! ### The result -/

/-- The disassembly of an instruction determines it. A word whose opcode is known and takes all that the word
carries, as do the words that the constructors make and those of assembled programs, is shown as its mnemonic,
its condition and its payload; words with the same text are the same, and programs of such words with the
same instruction lines have the same code. -/
theorem disassembly_determines_code :
    -- A word has a text, in which what is absent is left out.
    (∀ i : Instruction, i.WellFormed → ∃ opcode payload condition,
      i.Carries opcode payload condition ∧
      i.text = .ok (opcode.mnemonic ++ condition.elim "" (fun n => " " ++ "%b" ++ toString n) ++
        payload.elim "" fun n => " " ++ opcode.payloadKind?.elim "" PayloadKind.sigil ++ toString n)) ∧
    -- The text determines the bits.
    (∀ i j : Instruction, i.WellFormed → j.WellFormed → i.text = j.text → i.word = j.word) ∧
    -- The constructors make such words, and assembled programs consist of them.
    (∀ i : Instruction, i.Made → i.WellFormed) ∧
    (∀ (E : Type) [DecidableEq E] (elements : List E) (calls : List (Call E)) session (p : Program E),
      (Session.fresh elements).replay calls = .ok session → session.assembler.assemble = .ok p →
      p.WellFormed) ∧
    -- A listing is a heading and the instruction lines; these can be shown if their strings are there.
    (∀ (E : Type) [Spelled E] (p : Program E),
      p.listing = do return p.heading ++ String.join (← p.instructionLines)) ∧
    (∀ (E : Type) (p : Program E), p.WellFormed →
      (∀ i ∈ p.code, ∀ r, i.string? = .ok (some r) → r.index < p.strings.size) →
      ∃ lines, p.instructionLines = .ok lines) ∧
    -- The instruction lines determine the code, whatever else the programs consist of.
    (∀ (E F : Type) (p : Program E) (q : Program F) lines lines', p.WellFormed → q.WellFormed →
      p.instructionLines = .ok lines → q.instructionLines = .ok lines' →
      String.join lines = String.join lines' → p.code = q.code) := by
  refine ⟨fun i formed => ?_, fun i j formed formed' same => ?_, fun _ => Instruction.Made.wellFormed,
    fun _ _ _ _ _ _ => Session.assembled_wellFormed, fun _ _ => Program.listing_eq,
    fun _ _ => Program.instructionLines_ok, fun _ _ _ _ _ _ => Program.code_eq_of_lines⟩
  · obtain ⟨opcode, payload, condition, carries, -, text⟩ := formed.shown
    exact ⟨opcode, payload, condition, carries, text⟩
  · rw [formed.eq_of_text formed' same]

/-- The words of a loop, given as numbers, are shown as the same loop assembled over other elements is. Its
comment is a line break and a quotation mark, which do not end the line. -/
theorem disassembly_determines_code_loop :
    (∃ i, Instruction.condBranch ⟨0⟩ (some ⟨5⟩) = .ok i ∧ i.WellFormed ∧
      i.text = .ok "COND_BRANCH %b0 @5" ∧ i.word = 0x0300010000000006#64) ∧
    ∃ (calls : List (Call Nat)) (session : Session Nat) (p : Program Nat) (q : Program Char)
        (lines lines' : List String),
      (Session.fresh [7]).replay calls = .ok session ∧ session.assembler.assemble = .ok p ∧
      p.instructionLines = .ok lines ∧ q.instructionLines = .ok lines' ∧
      String.join lines = "[0] NOP %s0 // \"\\n\\\"\"\n[1] SAVE @5 // <end>\n[2] MATCH %e0\n" ++
        "[3] COND_BRANCH %b0 @1 // SAVE @5\n[4] BRANCH @1 // SAVE @5\n" ∧
      String.join lines' = String.join lines ∧ p.code = q.code := by
  obtain ⟨-, words, made, assembled, -, listed, determined⟩ := disassembly_determines_code
  constructor
  · have shown : (Instruction.condBranch ⟨0⟩ (some ⟨5⟩) >>= Instruction.text) =
        .ok "COND_BRANCH %b0 @5" := eq_ok (by decide +kernel)
    obtain ⟨i, make, text⟩ := bind_eq_ok.mp shown
    let j : Instruction := ⟨0x0300010000000006#64⟩
    have text' : j.text = .ok "COND_BRANCH %b0 @5" := eq_ok (by decide +kernel)
    have formed := made i (.condBranch make)
    exact ⟨i, make, formed, text, words i j formed (by decide +kernel) (text.trans text'.symm)⟩
  · let calls : List (Call Nat) :=
      [.makeToken, .makeToken, .makeBoolRegister, .emit (.nop (some "\n\"")), .label ⟨0⟩, .emit (.save ⟨1⟩),
        .emit (.matchElement 7), .emit (.condBranch ⟨0⟩ ⟨0⟩), .emit (.branch ⟨0⟩), .label ⟨1⟩]
    let q : Program Char := {
      code := #[⟨0x0100000000000001#64⟩, ⟨0x0400000000000006#64⟩, ⟨0x1000000000000001#64⟩,
        ⟨0x0300010000000002#64⟩, ⟨0x0200000000000002#64⟩]
      elements := #['x']
      strings := #["\n\""]
      predicates := #[]
      consumeFunctions := #[]
      registers := ⟨1, 1, 1, 0, 0, 0, 0⟩ }
    let text := "[0] NOP %s0 // \"\\n\\\"\"\n[1] SAVE @5 // <end>\n[2] MATCH %e0\n" ++
      "[3] COND_BRANCH %b0 @1 // SAVE @5\n[4] BRANCH @1 // SAVE @5\n"
    have shown : ((Session.fresh [7]).replay calls >>= fun s => s.assembler.assemble).toOption.any
        fun p => p.instructionLines.toOption.any fun lines => String.join lines = text := by
      decide +kernel
    have shown' : q.instructionLines.toOption.any fun lines => String.join lines = text := by
      decide +kernel
    obtain ⟨p, built, shown⟩ := (Option.any_eq_true _ _).mp shown
    obtain ⟨session, replayed, built⟩ := bind_eq_ok.mp (eq_ok built)
    obtain ⟨lines, there, shown⟩ := (Option.any_eq_true _ _).mp shown
    have formed : q.WellFormed := by decide +kernel
    have pooled : ∀ i ∈ q.code, i.string?.toOption.all fun string => string.all (·.index < 1) := by
      decide +kernel
    obtain ⟨lines', there'⟩ := listed Char q formed fun i member r named => by
      have inside := pooled i member
      rw [named] at inside
      exact of_decide_eq_true inside
    rw [there'] at shown'
    have same : String.join lines' = String.join lines :=
      (of_decide_eq_true shown').trans (of_decide_eq_true shown).symm
    have code := determined Nat Char p q lines lines' (assembled Nat [7] calls session p replayed built)
      formed (eq_ok there) there' same.symm
    exact ⟨calls, session, p, q, lines, lines', replayed, built, eq_ok there, there',
      of_decide_eq_true shown, same, code⟩

end PatternMachine

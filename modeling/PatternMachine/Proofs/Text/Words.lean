import PatternMachine.Text.Quoted

/-! Texts that can be taken apart again. Words are solid if they hold no blank, no slash and no line break,
as numerals do: a text that separates solid words by blanks has these words, also where notes stand behind it.
A quoted text keeps to its line. -/
namespace PatternMachine.Text

/-! ### Solid words -/

/-- Neither a blank nor a slash nor a line break. -/
def solid (c : Char) : Bool := c ≠ ' ' && c ≠ '/' && c ≠ '\n'

theorem solid_of_isDigit {c : Char} (digit : c.isDigit = true) : solid c = true := by
  have apart (d : Char) (other : d.isDigit = false) : c ≠ d := by
    rintro rfl
    rw [digit] at other
    cases other
  simp [solid, apart ' ' rfl, apart '/' rfl, apart '\n' rfl]

/-- What stands between the blanks of a text. -/
def words (text : List Char) : List (List Char) := text.splitOn ' '

theorem words_spaced {ws : List (List Char)} (nonempty : ws ≠ [])
    (solids : ∀ w ∈ ws, w.all solid = true) : words ([' '].intercalate ws) = ws := by
  refine List.splitOn_intercalate ' ' (fun w member blank => ?_) nonempty
  cases List.all_eq_true.mp (solids w member) _ blank

theorem spaced_unbroken {ws : List (List Char)} (solids : ∀ w ∈ ws, w.all solid = true) :
    '\n' ∉ [' '].intercalate ws := by
  induction ws with
  | nil => exact List.not_mem_nil
  | cons w ws ih =>
    have first : '\n' ∉ w := fun broken => by
      cases List.all_eq_true.mp (solids w List.mem_cons_self) _ broken
    have others := ih fun w' member => solids w' (List.mem_cons_of_mem _ member)
    cases ws with
    | nil => rwa [List.intercalate_singleton]
    | cons w' ws => simp [List.intercalate_cons_cons, first, others]

theorem unbroken_of_words {text : List Char} (solids : ∀ w ∈ words text, w.all solid = true) :
    '\n' ∉ text := by
  have whole : [' '].intercalate (words text) = text := List.intercalate_splitOn ' '
  rw [← whole]
  exact spaced_unbroken solids

/-- The first line of a text ends at the first line break. -/
theorem first_line_inj {line line' rest rest' : List Char} (unbroken : '\n' ∉ line)
    (unbroken' : '\n' ∉ line') (same : line ++ '\n' :: rest = line' ++ '\n' :: rest') :
    line = line' ∧ rest = rest' := by
  have split := congrArg (List.splitOn '\n') same
  rw [List.splitOn_append_cons_self_of_not_mem unbroken,
    List.splitOn_append_cons_self_of_not_mem unbroken'] at split
  obtain ⟨first, others⟩ := List.cons.inj split
  refine ⟨first, ?_⟩
  calc
    rest = ['\n'].intercalate (rest.splitOn '\n') := (List.intercalate_splitOn _).symm
    _ = ['\n'].intercalate (rest'.splitOn '\n') := congrArg _ others
    _ = rest' := List.intercalate_splitOn _

/-! ### Numerals -/

theorem isDigit_of_mem_numeral {n : Nat} {c : Char} (member : c ∈ (toString n).toList) :
    c.isDigit = true := by
  rw [Nat.toString_eq_ofList_toDigits, String.toList_ofList] at member
  exact Nat.isDigit_of_mem_toDigits (by decide) (by decide) member

theorem numeral_injective {n m : Nat} (same : (toString n).toList = (toString m).toList) : n = m := by
  simp only [Nat.toString_eq_ofList_toDigits, String.toList_ofList] at same
  rw [← Nat.ofDigitChars_ten_toDigits (n := n), same, Nat.ofDigitChars_ten_toDigits]

theorem numeral_solid (n : Nat) : (toString n).toList.all solid = true :=
  List.all_eq_true.mpr fun _ member => solid_of_isDigit (isDigit_of_mem_numeral member)

/-! ### Notes -/

/-- What may stand behind a text: nothing, or a remark behind two slashes, without a line break. -/
structure IsNote (note : List Char) : Prop where
  unbroken : '\n' ∉ note
  marked : note = [] ∨ ∃ rest, note = ' ' :: '/' :: '/' :: ' ' :: rest

theorem IsNote.empty : IsNote [] := ⟨List.not_mem_nil, .inl rfl⟩

theorem IsNote.remark {rest : List Char} (unbroken : '\n' ∉ rest) :
    IsNote (" // ".toList ++ rest) where
  unbroken := by
    rw [List.mem_append, not_or]
    exact ⟨by decide, unbroken⟩
  marked := .inr ⟨rest, rfl⟩

theorem IsNote.append {note note' : List Char} (h : IsNote note) (h' : IsNote note') :
    IsNote (note ++ note') where
  unbroken := by
    rw [List.mem_append, not_or]
    exact ⟨h.unbroken, h'.unbroken⟩
  marked := by
    rcases h.marked with rfl | ⟨rest, rfl⟩
    · exact h'.marked
    · exact .inr ⟨rest ++ note', rfl⟩

/-- The text of a line, behind the label and before the notes. -/
def noted (line : List Char) : List Char :=
  [' '].intercalate ((words line).tail.takeWhile (· ≠ ['/', '/']))

theorem noted_line {label text note : List Char} (solids : label.all solid = true)
    (texts : ∀ w ∈ words text, w.all solid = true) (h : IsNote note) :
    noted (label ++ ' ' :: (text ++ note)) = text := by
  have first : words (label ++ ' ' :: (text ++ note)) = label :: words (text ++ note) := by
    refine List.splitOn_append_cons_self_of_not_mem (fun blank => ?_) _
    cases List.all_eq_true.mp solids _ blank
  have unmarked : ∀ w ∈ words text, decide (w ≠ ['/', '/']) = true := by
    intro w member
    refine decide_eq_true ?_
    rintro rfl
    cases texts _ member
  have cut : (words (text ++ note)).takeWhile (· ≠ ['/', '/']) = words text := by
    rcases h.marked with rfl | ⟨rest, rfl⟩
    · have kept := @List.takeWhile_append_of_pos _ _ _ [] unmarked
      simpa using kept
    · have mark : words ('/' :: '/' :: ' ' :: rest) = ['/', '/'] :: words rest :=
        List.splitOn_append_cons_self_of_not_mem (show ' ' ∉ ['/', '/'] by decide) rest
      have split : words (text ++ ' ' :: '/' :: '/' :: ' ' :: rest) =
          words text ++ ['/', '/'] :: words rest := by
        rw [← mark]
        exact List.splitOn_append_cons_self _ _
      rw [split, List.takeWhile_append_of_pos unmarked]
      simp
  rw [noted, first, List.tail_cons, cut]
  exact List.intercalate_splitOn ' '

/-! ### Quoted texts -/

theorem digitChar_ne_newline : (n : Nat) → n.digitChar ≠ '\n'
  | 0 | 1 | 2 | 3 | 4 | 5 | 6 | 7 | 8 | 9 | 10 | 11 | 12 | 13 | 14 | 15 => by decide
  | n + 16 => by simp [Nat.digitChar]

theorem hex_unbroken (n : Nat) : '\n' ∉ (hex n).toList := by
  rw [hex, String.toList_ofList]
  induction n using Nat.strongRecOn with
  | ind n ih =>
    rw [Nat.toDigits_eq_if (by decide)]
    split
    · exact fun member => digitChar_ne_newline _ (List.mem_singleton.mp member).symm
    · rw [List.mem_append, List.mem_singleton, not_or]
      exact ⟨ih _ (by omega), (digitChar_ne_newline _).symm⟩

theorem escape_unbroken {delimiter : Char} (other : delimiter ≠ '\n') (c : Char) :
    '\n' ∉ (escape delimiter c).toList := by
  unfold escape
  split
  · decide
  split
  · decide
  split
  · decide
  split
  · decide
  next kept =>
    split
    next quoted => rcases quoted with rfl | rfl <;> simp [other.symm]
    · split
      · simp [hex_unbroken]
      · simpa using Ne.symm kept

theorem quote_unbroken (s : String) : '\n' ∉ (quote s).toList := by
  simp only [quote, String.toList_append, String.toList_join, List.mem_append, List.mem_flatMap,
    List.mem_map]
  rintro ((opened | ⟨_, ⟨c, -, rfl⟩, member⟩) | closed)
  · revert opened; decide
  · exact escape_unbroken (by decide) c member
  · revert closed; decide

end PatternMachine.Text

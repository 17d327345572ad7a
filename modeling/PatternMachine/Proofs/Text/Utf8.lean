import PatternMachine.Text.Utf8

/-! Decoding is the inverse of encoding: it succeeds on the encodings of texts and on nothing else. -/
namespace PatternMachine.Utf8

theorem scalar_lt (c : Char) : c.val.toNat < 0x110000 := by
  have valid := c.valid
  simp only [UInt32.isValidChar, Nat.isValidChar] at valid
  omega

/-- The payload bits of the encoding of a character make up its number. -/
theorem code_encodeChar (c : Char) : code (String.utf8EncodeChar c) = c.toNat := by
  have bound := scalar_lt c
  have same : c.val.toNat = c.toNat := rfl
  unfold String.utf8EncodeChar
  generalize c.val.toNat = v at *
  rw [← same]
  dsimp only
  split
  · simp only [code, UInt8.toNat_ofNat']
    omega
  · split
    · simp only [code, UInt8.toNat_ofNat']
      omega
    · split
      · simp only [code, UInt8.toNat_ofNat']
        omega
      · simp only [code, UInt8.toNat_ofNat']
        omega

theorem char?_encodeChar (c : Char) : char? (String.utf8EncodeChar c) = some c := by
  have same : Char.ofNat (code (String.utf8EncodeChar c)) = c := by
    rw [code_encodeChar, Char.ofNat_toNat]
  simp only [char?, same, if_true]

theorem encodeChar_of_char? {bytes : List UInt8} {c : Char} (h : char? bytes = some c) :
    String.utf8EncodeChar c = bytes := by
  simp only [char?] at h
  split at h
  next same => cases h; exact same
  · cases h

theorem follow_eq_some {bytes : List UInt8} {rest : Option (List Char)} {text : List Char} :
    decode?.follow bytes rest = some text ↔
      ∃ c tail, char? bytes = some c ∧ rest = some tail ∧ text = c :: tail := by
  unfold decode?.follow
  cases char? bytes with
  | none => simp
  | some c => cases rest <;> simp [eq_comm]

theorem encode_cons (c : Char) (text : List Char) :
    encode (c :: text) = String.utf8EncodeChar c ++ encode text := rfl

theorem ofNat_lt {n limit : Nat} (small : n < 256) (below : limit < 256) :
    UInt8.ofNat n < UInt8.ofNat limit ↔ n < limit := by
  rw [UInt8.lt_iff_toNat_lt, UInt8.toNat_ofNat', UInt8.toNat_ofNat']
  omega

/-- The first byte of a character tells how many there are. -/
theorem decode?_encodeChar (c : Char) (rest : List UInt8) :
    decode? (String.utf8EncodeChar c ++ rest) =
      decode?.follow (String.utf8EncodeChar c) (decode? rest) := by
  have bound := scalar_lt c
  unfold String.utf8EncodeChar
  generalize c.val.toNat = v at *
  dsimp only
  -- One case for each length; the comparisons of the first byte pick it.
  split
  next one =>
    have below : UInt8.ofNat v < UInt8.ofNat 0x80 := (ofNat_lt (by omega) (by omega)).mpr (by omega)
    rw [decode?.eq_def]
    exact if_pos below
  next more =>
    split
    next two =>
      have above : ¬UInt8.ofNat (v / 64 % 32 + 192) < UInt8.ofNat 0x80 := fun less =>
        absurd ((ofNat_lt (by omega) (by omega)).mp less) (by omega)
      have below : UInt8.ofNat (v / 64 % 32 + 192) < UInt8.ofNat 0xE0 :=
        (ofNat_lt (by omega) (by omega)).mpr (by omega)
      rw [decode?.eq_def]
      exact (if_neg above).trans (if_pos below)
    next more' =>
      split
      next three =>
        have above : ¬UInt8.ofNat (v / 4096 % 16 + 224) < UInt8.ofNat 0x80 := fun less =>
          absurd ((ofNat_lt (by omega) (by omega)).mp less) (by omega)
        have above' : ¬UInt8.ofNat (v / 4096 % 16 + 224) < UInt8.ofNat 0xE0 := fun less =>
          absurd ((ofNat_lt (by omega) (by omega)).mp less) (by omega)
        have below : UInt8.ofNat (v / 4096 % 16 + 224) < UInt8.ofNat 0xF0 :=
          (ofNat_lt (by omega) (by omega)).mpr (by omega)
        rw [decode?.eq_def]
        exact (if_neg above).trans ((if_neg above').trans (if_pos below))
      next four =>
        have above (limit : Nat) (le : limit ≤ 0xF0) :
            ¬UInt8.ofNat (v / 262144 % 8 + 240) < UInt8.ofNat limit := fun less =>
          absurd ((ofNat_lt (by omega) (by omega)).mp less) (by omega)
        rw [decode?.eq_def]
        exact (if_neg (above 0x80 (by omega))).trans
          ((if_neg (above 0xE0 (by omega))).trans (if_neg (above 0xF0 (by omega))))

theorem decode?_encode (text : List Char) : decode? (encode text) = some text := by
  induction text with
  | nil => rfl
  | cons c text ih =>
    rw [encode_cons, decode?_encodeChar, ih]
    exact follow_eq_some.mpr ⟨c, text, char?_encodeChar c, rfl, rfl⟩

theorem encode_decode? {bytes : List UInt8} {text : List Char} (h : decode? bytes = some text) :
    encode text = bytes := by
  have follow {lead rest : List UInt8} {text : List Char}
      (ih : ∀ tail, decode? rest = some tail → encode tail = rest)
      (h : decode?.follow lead (decode? rest) = some text) : encode text = lead ++ rest := by
    obtain ⟨c, tail, first, others, rfl⟩ := follow_eq_some.mp h
    rw [encode_cons, encodeChar_of_char? first, ih tail others]
  fun_induction decode? bytes generalizing text with
  | case1 => cases h; rfl
  | case2 a rest one ih => exact follow (fun tail => ih) h
  | case3 => cases h
  | case4 a _ b rest two ih => exact follow (fun tail => ih) h
  | case5 => cases h
  | case6 a _ b _ c rest three ih => exact follow (fun tail => ih) h
  | case7 => cases h
  | case8 a _ b _ c _ d rest ih => exact follow (fun tail => ih) h

/-- The texts that bytes are decoded to are those that they encode. -/
theorem decode?_eq_some {bytes : List UInt8} {text : List Char} :
    decode? bytes = some text ↔ encode text = bytes := by
  refine ⟨encode_decode?, ?_⟩
  rintro rfl
  exact decode?_encode text

theorem encode_injective {text text' : List Char} (same : encode text = encode text') :
    text = text' := by
  have both := decode?_encode text'
  rw [← same, decode?_encode text] at both
  exact Option.some.inj both

end PatternMachine.Utf8

import PhoneAccounts.Text.Utf8

/-!
Contract: text survives its UTF-8 bytes.

Owns: reading the bytes of one character, and of a text.

Does not own: which texts a document may hold (see `PhoneAccounts.Yaml.Charset`).
-/

namespace PhoneAccounts.Text.Utf8

theorem toNat_ofNat_of_lt
    {value : Nat}
    (small : value < 256) :
    (UInt8.ofNat value).toNat = value := by
  rw [UInt8.toNat_ofNat']
  omega

theorem tail?_continuation (value : Nat) : tail? (continuation value) = some (value % 64) := by
  have byte := toNat_ofNat_of_lt (show 0x80 + value % 64 < 256 by omega)
  unfold tail? continuation
  rw [byte, if_pos (by omega), Nat.add_sub_cancel_left]

theorem charFrom?_toNat
    {least : Nat}
    {char : Char}
    (enough : least ≤ char.toNat) :
    charFrom? least char.toNat = some char := by
  have valid : char.toNat.isValidChar := char.valid
  rw [charFrom?, if_pos ⟨enough, valid⟩, Char.ofNat_toNat]

/-- The bytes of a character are read as that character, whatever follows them. -/
theorem decode?_encodeChar (char : Char) (rest : List UInt8) :
    decode? (encodeChar char ++ rest) = (decode? rest).map (char :: ·) := by
  have last : char.toNat < 0x110000 := by
    have valid := char.valid
    simp only [UInt32.isValidChar, Nat.isValidChar] at valid
    show char.val.toNat < _
    omega
  unfold encodeChar
  simp only
  by_cases one : char.toNat < 0x80
  · rw [if_pos one, List.singleton_append, decode?.eq_def]
    simp only [toNat_ofNat_of_lt (show char.toNat < 256 by omega), if_pos one,
      Char.ofNat_toNat]
  · rw [if_neg one]
    by_cases two : char.toNat < 0x800
    · have first := toNat_ofNat_of_lt (show 0xC0 + char.toNat / 64 < 256 by omega)
      have code : (0xC0 + char.toNat / 64 - 0xC0) * 64 + char.toNat % 64 = char.toNat := by omega
      rw [if_pos two, List.cons_append, List.singleton_append, decode?.eq_def]
      simp only
      rw [first, if_neg (by omega), if_neg (by omega), if_pos (by omega)]
      simp only [tail?_continuation, Option.bind_eq_bind, Option.bind_some, code,
        charFrom?_toNat (show 0x80 ≤ char.toNat by omega)]
    · rw [if_neg two]
      by_cases three : char.toNat < 0x10000
      · have first := toNat_ofNat_of_lt (show 0xE0 + char.toNat / 4096 < 256 by omega)
        have code : ((0xE0 + char.toNat / 4096 - 0xE0) * 64 + char.toNat / 64 % 64) * 64 +
            char.toNat % 64 = char.toNat := by omega
        rw [if_pos three, List.cons_append, List.cons_append, List.singleton_append,
          decode?.eq_def]
        simp only
        rw [first, if_neg (by omega), if_neg (by omega), if_neg (by omega), if_pos (by omega)]
        simp only [tail?_continuation, Option.bind_eq_bind, Option.bind_some, code,
          charFrom?_toNat (show 0x800 ≤ char.toNat by omega)]
      · have first := toNat_ofNat_of_lt (show 0xF0 + char.toNat / 262144 < 256 by omega)
        have code : (((0xF0 + char.toNat / 262144 - 0xF0) * 64 + char.toNat / 4096 % 64) * 64 +
            char.toNat / 64 % 64) * 64 + char.toNat % 64 = char.toNat := by omega
        rw [if_neg three, List.cons_append, List.cons_append, List.cons_append,
          List.singleton_append, decode?.eq_def]
        simp only
        rw [first, if_neg (by omega), if_neg (by omega), if_neg (by omega), if_neg (by omega),
          if_pos (by omega)]
        simp only [tail?_continuation, Option.bind_eq_bind, Option.bind_some, code,
          charFrom?_toNat (show 0x10000 ≤ char.toNat by omega)]

/-- Every text is read back from its bytes. -/
theorem decode?_encode (chars : List Char) : decode? (encode chars) = some chars := by
  induction chars with
  | nil => rfl
  | cons char rest inductionHypothesis =>
      unfold encode at inductionHypothesis ⊢
      rw [List.flatMap_cons, decode?_encodeChar, inductionHypothesis]
      rfl

/-- A text that begins with a character of one byte has that byte first. -/
theorem encode_cons_of_lt
    {char : Char}
    (small : char.toNat < 0x80)
    (rest : List Char) :
    encode (char :: rest) = UInt8.ofNat char.toNat :: encode rest := by
  have bytes : encodeChar char = [UInt8.ofNat char.toNat] := if_pos small
  rw [encode, List.flatMap_cons, bytes]
  rfl

end PhoneAccounts.Text.Utf8

import Mathlib.Algebra.Group.Nat.Defs
import PhoneAccounts.Proofs.Yaml.Token.QuotedScalar
import PhoneAccounts.Yaml.Layout.Scalar

/-!
Contract: every text that is written between double quotes is read back.

Owns: reading the escape of a character and a broken line, and with them the inside of the
quotes.

Does not own: which texts are written so (see `PhoneAccounts.Yaml.Layout.Style`).
-/

namespace PhoneAccounts.Yaml

open PhoneAccounts.Text

/-! ## Hexadecimal digits -/

theorem hexDigit_mod (value : Nat) :
    LetterCase.upper.hexDigit value = LetterCase.upper.hexDigit (value % 16) := by
  simp only [LetterCase.hexDigit, Nat.mod_mod]

theorem hexDigit?_hexDigit (value : Nat) :
    hexDigit? (LetterCase.upper.hexDigit value) = some (value % 16) := by
  have digits : ∀ digit < 16, hexDigit? (LetterCase.upper.hexDigit digit) = some digit := by
    decide
  rw [hexDigit_mod, digits _ (Nat.mod_lt value (by omega))]

theorem isInline_of_mem_hexText
    (width value : Nat) :
    ∀ char ∈ LetterCase.upper.hexText width value, isInline char = true := by
  have digits : ∀ digit < 16, isInline (LetterCase.upper.hexDigit digit) = true := by
    decide
  induction width generalizing value with
  | zero => exact fun char member => absurd member List.not_mem_nil
  | succ width inductionHypothesis =>
      intro char member
      rw [LetterCase.hexText, List.mem_append, List.mem_singleton] at member
      rcases member with member | rfl
      · exact inductionHypothesis (value / 16) char member
      · rw [hexDigit_mod]
        exact digits _ (Nat.mod_lt value (by omega))

theorem length_hexText (width value : Nat) :
    (LetterCase.upper.hexText width value).length = width := by
  induction width generalizing value with
  | zero => rfl
  | succ width inductionHypothesis =>
      rw [LetterCase.hexText, List.length_append, inductionHypothesis]
      rfl

theorem hexNumber?_hexText (width value : Nat) :
    hexNumber? (LetterCase.upper.hexText width value) = some (value % 16 ^ width) := by
  induction width generalizing value with
  | zero =>
      rw [Nat.pow_zero, Nat.mod_one]
      rfl
  | succ width inductionHypothesis =>
      have front := inductionHypothesis (value / 16)
      unfold hexNumber? at front ⊢
      rw [LetterCase.hexText, List.foldlM_append, front]
      simp only [Option.bind_eq_bind, Option.bind_some, List.foldlM_cons, List.foldlM_nil,
        hexDigit?_hexDigit, Option.map_some, Option.pure_def]
      rw [Nat.pow_succ', Nat.mod_mul]
      congr 1
      omega

/-! ## Escapes -/

theorem shortEscape?_of_escapeLetter?
    {char letter : Char}
    (short : escapeLetter? char = some letter) :
    shortEscape? letter = some char ∧ isInline letter = true := by
  unfold escapeLetter? at short
  split at short
  all_goals cases short
  all_goals decide

theorem charOfCode_toNat (char : Char) : charOfCode char.toNat = .ok char := by
  have valid : char.toNat.isValidChar := char.valid
  rw [charOfCode, if_pos valid, Char.ofNat_toNat]

/-- The number of a character behind its letter is read as that character. -/
theorem readEscape_hexText
    {letter : Char}
    {width : Nat}
    (noShort : shortEscape? letter = none)
    (wide : escapeWidth? letter = some width)
    (inline : isInline letter = true)
    {char : Char}
    (fits : char.toNat < 16 ^ width)
    (rest : List Char)
    (index line column : Nat) :
    readEscape
        ⟨letter :: LetterCase.upper.hexText width char.toNat ++ rest, index, line, column⟩ =
      .ok ([char], ⟨rest, index + (width + 1), line, column + (width + 1)⟩) := by
  have digits : (LetterCase.upper.hexText width char.toNat ++ rest).take width =
      LetterCase.upper.hexText width char.toNat := by
    rw [List.take_left' (length_hexText width char.toNat)]
  have behindLetter := Cursor.advance_inline inline
    (LetterCase.upper.hexText width char.toNat ++ rest) index line column
  have behindDigits := Cursor.advanceBy_inline (isInline_of_mem_hexText width char.toNat) rest
    (index + 1) line (column + 1)
  rw [length_hexText] at behindDigits
  have here : Cursor.next
      ⟨letter :: (LetterCase.upper.hexText width char.toNat ++ rest), index, line, column⟩ =
        letter := rfl
  rw [List.cons_append, readEscape]
  simp only [here, noShort, wide, behindLetter, behindDigits, digits, length_hexText, if_true,
    hexNumber?_hexText, Nat.mod_eq_of_lt fits, charOfCode_toNat]
  rw [Nat.add_comm width 1, Nat.add_assoc, Nat.add_assoc]
  rfl

/-- The escape of a character is read as that character. -/
theorem readEscape_escapeText (char : Char) :
    ∃ behind, escapeText char = backslash :: behind ∧
      ∀ rest index line column,
        readEscape ⟨behind ++ rest, index, line, column⟩ =
          .ok ([char], ⟨rest, index + behind.length, line, column + behind.length⟩) := by
  have last : char.toNat < 0x110000 := by
    have valid := char.valid
    simp only [UInt32.isValidChar, Nat.isValidChar] at valid
    show char.val.toNat < _
    omega
  unfold escapeText
  cases short : escapeLetter? char with
  | some letter =>
      obtain ⟨stands, inline⟩ := shortEscape?_of_escapeLetter? short
      refine ⟨[letter], rfl, fun rest index line column => ?_⟩
      have moved := Cursor.advance_inline inline rest index line column
      have here : Cursor.next ⟨letter :: rest, index, line, column⟩ = letter := rfl
      rw [List.singleton_append, readEscape]
      simp only [here, stands, moved]
      rfl
  | none =>
      simp only
      by_cases two : char.toNat ≤ 0xFF
      · refine ⟨'x' :: LetterCase.upper.hexText 2 char.toNat, if_pos two, fun rest => ?_⟩
        rw [List.length_cons, length_hexText]
        exact readEscape_hexText rfl rfl rfl (by omega) rest
      · rw [if_neg two]
        by_cases four : char.toNat ≤ 0xFFFF
        · refine ⟨'u' :: LetterCase.upper.hexText 4 char.toNat, if_pos four, fun rest => ?_⟩
          rw [List.length_cons, length_hexText]
          exact readEscape_hexText rfl rfl rfl (by omega) rest
        · refine ⟨'U' :: LetterCase.upper.hexText 8 char.toNat, if_neg four, fun rest => ?_⟩
          rw [List.length_cons, length_hexText]
          exact readEscape_hexText rfl rfl rfl (by omega) rest

/-! ## Stretches -/

theorem isBlankOrEnd_eq_false_of_isDirect
    {char : Char}
    (direct : isDirect char = true)
    (noSpace : char ≠ ' ') :
    isBlankOrEnd char = false := by
  have listed : ∀ char ∈ ['\t', endMark, '\n', '\r', '\x85', '\u2028', '\u2029'],
      isDirect char = false := by
    decide
  have notListed : ∀ other ∈ ['\t', endMark, '\n', '\r', '\x85', '\u2028', '\u2029'],
      char ≠ other := by
    rintro other member rfl
    rw [listed char member] at direct
    exact Bool.false_ne_true direct
  simp only [List.forall_mem_cons, List.not_mem_nil, false_implies, implies_true,
    and_true] at notListed
  simp [isBlankOrEnd, isSpaceOrEnd, isBreakOrEnd, isBreak, noSpace, notListed]

/-- A space is read together with those behind it, as it would be alone. -/
theorem ReadsTo.space
    {style : QuoteStyle}
    {rest text : List Char}
    {result : List Char × Cursor}
    {index line column : Nat}
    (goesOn : isBlankOrEnd ((rest.dropWhile (· == ' ')).headD endMark) = false)
    (later : ReadsTo style ⟨rest, index + 1, line, column + 1⟩ (text ++ [' ']) result) :
    ReadsTo style ⟨' ' :: rest, index, line, column⟩ text result := by
  intro fuel enough
  obtain ⟨fuel, rfl⟩ := exists_fuel enough
  have split := List.takeWhile_append_dropWhile (p := (· == ' ')) (l := rest)
  have isSpaces : ∀ char ∈ rest.takeWhile (· == ' '), char = ' ' :=
    fun char member => beq_iff_eq.mp (List.all_eq_true.mp List.all_takeWhile char member)
  revert split isSpaces goesOn
  generalize rest.takeWhile (· == ' ') = spaces
  generalize rest.dropWhile (· == ' ') = tail
  rintro goesOn rfl isSpaces
  have allSpaces : ∀ char ∈ ' ' :: spaces, char = ' ' := by
    intro char member
    rcases List.mem_cons.mp member with rfl | member
    · rfl
    · exact isSpaces char member
  have found := readQuotedGap_of_spaces allSpaces goesOn index line column
  rw [List.cons_append] at found
  rw [ReadsTo.readQuotedRuns_gap rfl rfl found]
  cases spaces with
  | nil => exact later fuel (Nat.lt_of_succ_lt_succ enough)
  | cons first others =>
      obtain rfl := isSpaces first List.mem_cons_self
      have foundBehind := readQuotedGap_of_spaces isSpaces goesOn (index + 1) line (column + 1)
      have read := later (fuel + 1) (Nat.lt_of_succ_lt enough)
      rw [List.cons_append] at foundBehind
      rw [List.cons_append, ReadsTo.readQuotedRuns_gap rfl rfl foundBehind,
        List.append_assoc] at read
      rw [List.length_cons, Nat.add_comm (List.length _) 1, ← Nat.add_assoc, ← Nat.add_assoc]
      exact read

namespace ReadsAs

variable
  {rest written chars : List Char}

/-- A character that is written as an escape. -/
theorem escaped
    (char : Char)
    (later : ReadsAs .double rest written chars) :
    ReadsAs .double rest (escapeText char ++ written) (char :: chars) := by
  obtain ⟨behind, shown, stands⟩ := readEscape_escapeText char
  refine later.of_step _ [char] fun text index line column => ?_
  have inline : isInline backslash = true := by decide
  have found := stands (written ++ doubleQuote :: rest) (index + 1) line (column + 1)
  rw [← Cursor.advance_inline inline] at found
  rw [shown]
  exact ⟨_, line, _, Nat.le_refl line,
    fun result => ReadsTo.escape rfl found (List.suffix_append _ _).length_le⟩

theorem escapedSpace
    (later : ReadsAs .double rest written chars) :
    ReadsAs .double rest (backslash :: ' ' :: written) (' ' :: chars) := by
  refine later.of_step [backslash, ' '] [' '] fun text index line column => ?_
  have found : readEscape
      (Cursor.advance ⟨backslash :: ' ' :: (written ++ doubleQuote :: rest), index, line, column⟩) =
        .ok ([' '], ⟨written ++ doubleQuote :: rest, index + 2, line, column + 2⟩) := rfl
  exact ⟨_, line, _, Nat.le_refl line, fun result => ReadsTo.escape rfl found (Nat.le_succ _)⟩

/-- A line that is broken behind a backslash. -/
theorem broken
    {indent : Nat}
    (positive : 0 < indent)
    (goesOn : isBlankOrEnd ((written ++ doubleQuote :: rest).headD endMark) = false)
    (later : ReadsAs .double rest written chars) :
    ReadsAs .double rest (backslash :: newLine indent ++ written) chars := by
  refine later.of_step _ [] fun text index line column => ?_
  have noBreaks : ∀ char ∈ ([] : List Char), TextStyle.isWrittenBreak char = true :=
    fun char member => absurd member List.not_mem_nil
  obtain ⟨index', line', column', further, found⟩ := quotedBreaks_of_breaks noBreaks positive
    goesOn (Nat.succ_pos _) (index + 2) (line + 1) 0
  have stands : readEscape (Cursor.advance
      ⟨backslash :: '\n' :: (List.replicate indent ' ' ++ (written ++ doubleQuote :: rest)),
        index, line, column⟩) = .ok ([], ⟨written ++ doubleQuote :: rest, index', line', column'⟩) :=
    found
  have shorter : (written ++ doubleQuote :: rest).length ≤
      ('\n' :: (List.replicate indent ' ' ++ (written ++ doubleQuote :: rest))).length :=
    ((List.suffix_append _ _).trans (List.suffix_cons _ _)).length_le
  exact ⟨index', line', column', Nat.le_of_succ_le further,
    fun result => ReadsTo.escape rfl stands shorter⟩

/-- A space within a line, behind which more spaces may follow. -/
theorem space
    (goesOn : isBlankOrEnd
      (((written ++ doubleQuote :: rest).dropWhile (· == ' ')).headD endMark) = false)
    (later : ReadsAs .double rest written chars) :
    ReadsAs .double rest (' ' :: written) (' ' :: chars) := by
  refine later.of_step [' '] [' '] fun text index line column => ?_
  exact ⟨index + 1, line, column + 1, Nat.le_refl line, fun result => ReadsTo.space goesOn⟩

/-- A character that stands for itself. -/
theorem direct
    {char : Char}
    (direct : isDirect char = true)
    (goesOn : isBlankOrEnd
      (((written ++ doubleQuote :: rest).dropWhile (· == ' ')).headD endMark) = false)
    (later : ReadsAs .double rest written chars) :
    ReadsAs .double rest (char :: written) (char :: chars) := by
  by_cases isSpace : char = ' '
  · subst isSpace
    exact later.space goesOn
  · have notBlank := isBlankOrEnd_eq_false_of_isDirect direct isSpace
    by_cases quote : char = apostrophe
    · exact later.raw (.inr ⟨rfl, quote⟩)
    · unfold isDirect at direct
      simp only [Bool.and_eq_true, Bool.not_eq_true', Bool.or_eq_false_iff] at direct
      obtain ⟨-, ⟨⟨⟨noDoubleQuote, noBackslash⟩, -⟩, -⟩, noMark⟩ := direct
      have isPlain : isQuotedPlain char = true := by
        simp [isQuotedPlain, notBlank, quote, noDoubleQuote, noBackslash]
      have inline : isInline char = true := by
        simp only [isBlankOrEnd, isSpaceOrEnd, isBreakOrEnd, Bool.or_eq_false_iff] at notBlank
        simp [isInline, notBlank, bne, noMark]
      exact later.plain isPlain inline

/-- A character that stands for itself at the front of a line: a space has a backslash there. -/
theorem direct_broken
    {indent : Nat}
    (positive : 0 < indent)
    {char : Char}
    (isDirect : isDirect char = true)
    (goesOn : isBlankOrEnd
      (((written ++ doubleQuote :: rest).dropWhile (· == ' ')).headD endMark) = false)
    (later : ReadsAs .double rest written chars) :
    ReadsAs .double rest (brokenLine indent char ++ char :: written) (char :: chars) := by
  unfold brokenLine
  by_cases isSpace : char = ' '
  · subst isSpace
    rw [if_pos rfl, List.append_assoc]
    exact later.escapedSpace.broken positive rfl
  · have notBlank := isBlankOrEnd_eq_false_of_isDirect isDirect isSpace
    rw [if_neg isSpace, List.append_nil]
    exact (later.direct isDirect goesOn).broken positive notBlank

end ReadsAs

/-! ## The inside of the quotes -/

theorem escapeText_eq_cons (char : Char) : ∃ behind, escapeText char = backslash :: behind := by
  obtain ⟨behind, shown, -⟩ := readEscape_escapeText char
  exact ⟨behind, shown⟩

/-- Behind its first spaces, what is written goes on with no blank. -/
theorem goesOn_doubleQuotedRuns
    (indent column run : Nat)
    (isFirst : Bool)
    (chars rest : List Char) :
    isBlankOrEnd
      (((doubleQuotedRuns indent column run isFirst chars ++ doubleQuote :: rest).dropWhile
        (· == ' ')).headD endMark) = false := by
  induction chars generalizing column run isFirst with
  | nil => rfl
  | cons char others inductionHypothesis =>
      rw [doubleQuotedRuns]
      split
      · next isDirect =>
          split
          · rfl
          · by_cases isSpace : char = ' '
            · subst isSpace
              exact inductionHypothesis column (run + 1) false
            · have notBlank := isBlankOrEnd_eq_false_of_isDirect isDirect isSpace
              rw [List.cons_append, List.dropWhile_cons_of_neg (by simpa using isSpace)]
              exact notBlank
      · obtain ⟨behind, shown⟩ := escapeText_eq_cons char
        simp only [shown]
        split <;> rfl

/-- A character that does not stand for itself, or is no space, begins with no blank. -/
theorem head_doubleQuotedRuns
    (chars : List Char)
    (noSpace : chars.headD endMark ≠ ' ')
    (indent column run : Nat)
    (isFirst : Bool)
    (rest : List Char) :
    isBlankOrEnd
      ((doubleQuotedRuns indent column run isFirst chars ++ doubleQuote :: rest).headD endMark) =
        false := by
  cases chars with
  | nil => rfl
  | cons char others =>
      rw [doubleQuotedRuns]
      split
      · next isDirect =>
          split
          · rfl
          · exact isBlankOrEnd_eq_false_of_isDirect isDirect noSpace
      · obtain ⟨behind, shown⟩ := escapeText_eq_cons char
        simp only [shown]
        split <;> rfl

/-- The inside of a text between double quotes is read character by character, from any place
of it on, and also from a line that is broken there. -/
theorem readsAs_doubleQuotedRuns
    {indent : Nat}
    (positive : 0 < indent)
    (narrow : indent < bestWidth)
    {rest : List Char}
    (notDoubled : rest.headD endMark ≠ apostrophe)
    (chars : List Char) :
    (∀ column run isFirst,
      ReadsAs .double rest (doubleQuotedRuns indent column run isFirst chars) chars) ∧
    (chars ≠ [] →
      ReadsAs .double rest
        (brokenLine indent (chars.headD endMark) ++
          doubleQuotedRuns indent (brokenColumn indent (chars.headD endMark)) 0 false chars)
        chars) := by
  induction chars with
  | nil => exact ⟨fun column run isFirst => ReadsAs.close notDoubled, fun some => absurd rfl some⟩
  | cons char others inductionHypothesis =>
      obtain ⟨later, laterBroken⟩ := inductionHypothesis
      have goesOn := goesOn_doubleQuotedRuns indent
      have here : ∀ column run isFirst,
          ReadsAs .double rest (doubleQuotedRuns indent column run isFirst (char :: others))
            (char :: others) := by
        intro column run isFirst
        rw [doubleQuotedRuns]
        split
        · next isDirect =>
            split
            · exact (later _ 1 false).direct_broken positive isDirect (goesOn _ _ _ _ _)
            · exact (later column (run + 1) false).direct isDirect (goesOn _ _ _ _ _)
        · simp only
          split
          · next breaks =>
              have some : others ≠ [] := by
                rintro rfl
                simp at breaks
              rw [List.append_assoc]
              exact (laterBroken some).escaped char
          · exact (later _ 0 false).escaped char
      refine ⟨here, fun _ => ?_⟩
      rw [List.headD_cons]
      by_cases isSpace : char = ' '
      · -- The space has a backslash already, so its own line must not be broken again.
        subst isSpace
        have isDirect : isDirect ' ' = true := by decide
        have unbroken : doubleQuotedRuns indent (brokenColumn indent ' ') 0 false (' ' :: others) =
            ' ' :: doubleQuotedRuns indent (brokenColumn indent ' ') 1 false others := by
          have fits : brokenColumn indent ' ' ≤ bestWidth := by
            rw [brokenColumn, if_pos rfl]
            omega
          rw [doubleQuotedRuns, if_pos isDirect, if_neg (by simp [fits])]
        rw [unbroken]
        exact (later _ 1 false).direct_broken positive isDirect (goesOn _ _ _ _ _)
      · have notBlank := head_doubleQuotedRuns (char :: others) isSpace indent
          (brokenColumn indent char) 0 false rest
        rw [brokenLine, if_neg isSpace, List.append_nil]
        exact (here _ 0 false).broken positive notBlank

end PhoneAccounts.Yaml

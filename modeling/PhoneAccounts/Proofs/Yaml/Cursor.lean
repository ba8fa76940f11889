import PhoneAccounts.Yaml.Cursor

/-!
Contract: where a cursor is after some characters.

Owns: what is left of the text, the line and the column after a number of characters, runs of
characters that pass a test, line breaks, and fuel that is not used up.

Does not own: what is read at a place.
-/

namespace PhoneAccounts.Yaml

/-- The character takes a column of its line. -/
def isInline (char : Char) : Bool :=
  !isBreak char && char != byteOrderMark

/-- The form in which a line break is read. -/
def normalBreak (char : Char) : Char :=
  if char == '\u2028' || char == '\u2029' then char else '\n'

/-- Fuel above some number is not used up. -/
theorem exists_fuel
    {count fuel : Nat}
    (enough : count < fuel) :
    ∃ less, fuel = less + 1 :=
  Nat.exists_eq_succ_of_ne_zero (Nat.ne_of_gt (Nat.zero_lt_of_lt enough))

namespace Cursor

/-! ## Moving forward -/

theorem rest_advance (cursor : Cursor) : cursor.advance.rest = cursor.rest.tail := by
  obtain ⟨chars, index, line, column⟩ := cursor
  unfold advance
  cases chars with
  | nil => rfl
  | cons char rest =>
      simp only
      split
      · rfl
      · split <;> rfl

theorem advanceBy_succ (count : Nat) (cursor : Cursor) :
    advanceBy (count + 1) cursor = advanceBy count cursor.advance := rfl

theorem rest_advanceBy (count : Nat) (cursor : Cursor) :
    (advanceBy count cursor).rest = cursor.rest.drop count := by
  induction count generalizing cursor with
  | zero => rfl
  | succ count inductionHypothesis =>
      rw [advanceBy_succ, inductionHypothesis, rest_advance, List.drop_tail]

theorem advance_inline
    {char : Char}
    (inside : isInline char = true)
    (rest : List Char)
    (index line column : Nat) :
    advance ⟨char :: rest, index, line, column⟩ = ⟨rest, index + 1, line, column + 1⟩ := by
  simp only [isInline, Bool.and_eq_true, Bool.not_eq_true', bne_iff_ne, ne_eq] at inside
  simp [advance, inside.1, inside.2]

theorem advanceBy_inline
    {chars : List Char}
    (inside : ∀ char ∈ chars, isInline char = true)
    (rest : List Char)
    (index line column : Nat) :
    advanceBy chars.length ⟨chars ++ rest, index, line, column⟩ =
      ⟨rest, index + chars.length, line, column + chars.length⟩ := by
  induction chars generalizing index column with
  | nil => rfl
  | cons first others inductionHypothesis =>
      rw [List.length_cons, advanceBy_succ, List.cons_append,
        advance_inline (inside first List.mem_cons_self),
        inductionHypothesis fun char member => inside char (List.mem_cons_of_mem first member)]
      congr 1 <;> omega

theorem advance_feed (rest : List Char) (index line column : Nat) :
    advance ⟨'\n' :: rest, index, line, column⟩ = ⟨rest, index + 1, line + 1, 0⟩ := by
  simp [advance, isBreak]

theorem advance_break
    {char : Char}
    (ends : isBreak char = true)
    (noReturn : char ≠ '\r')
    (rest : List Char)
    (index line column : Nat) :
    advance ⟨char :: rest, index, line, column⟩ = ⟨rest, index + 1, line + 1, 0⟩ := by
  simp [advance, ends, noReturn]

/-! ## Runs -/

theorem takeWhile_run
    {test : Char → Bool}
    {run rest : List Char}
    (passes : ∀ char ∈ run, test char = true)
    (stops : test (rest.headD endMark) = false) :
    (run ++ rest).takeWhile test = run := by
  induction run with
  | nil =>
      cases rest with
      | nil => rfl
      | cons first others => exact List.takeWhile_cons_of_neg (by simpa using stops)
  | cons first others inductionHypothesis =>
      rw [List.cons_append, List.takeWhile_cons_of_pos (passes first List.mem_cons_self),
        inductionHypothesis fun char member => passes char (List.mem_cons_of_mem first member)]

/-- A run of characters that pass a test, and then one that does not, or the end. -/
theorem span_run
    {test : Char → Bool}
    {cursor : Cursor}
    {run rest : List Char}
    (comes : cursor.rest = run ++ rest)
    (passes : ∀ char ∈ run, test char = true)
    (stops : test (rest.headD endMark) = false) :
    cursor.span test = (run, advanceBy run.length cursor) := by
  unfold span
  rw [comes, takeWhile_run passes stops]

theorem span_cons
    {test : Char → Bool}
    {cursor : Cursor}
    {char : Char}
    {rest : List Char}
    (comes : cursor.rest = char :: rest)
    (passes : test char = true) :
    cursor.span test =
      (char :: (cursor.advance.span test).1, (cursor.advance.span test).2) := by
  unfold span
  rw [rest_advance, comes, List.takeWhile_cons_of_pos passes]
  rfl

/-- Nothing is taken where the next character does not pass the test. -/
theorem span_nil
    {test : Char → Bool}
    {cursor : Cursor}
    (stops : test cursor.next = false) :
    cursor.span test = ([], cursor) := by
  have nothing : [] ++ cursor.rest = cursor.rest := rfl
  exact span_run nothing.symm (fun char member => absurd member List.not_mem_nil) stops

theorem skip_run
    {test : Char → Bool}
    {cursor : Cursor}
    {run rest : List Char}
    (comes : cursor.rest = run ++ rest)
    (passes : ∀ char ∈ run, test char = true)
    (stops : test (rest.headD endMark) = false) :
    cursor.skip test = advanceBy run.length cursor := by
  rw [skip, span_run comes passes stops]

/-- Spaces are skipped, whatever else is. -/
theorem skip_spaces
    {test : Char → Bool}
    (passes : test ' ' = true)
    {rest : List Char}
    (stops : test (rest.headD endMark) = false)
    (spaces index line column : Nat) :
    skip test ⟨List.replicate spaces ' ' ++ rest, index, line, column⟩ =
      ⟨rest, index + spaces, line, column + spaces⟩ := by
  have areSpaces : ∀ char ∈ List.replicate spaces ' ', char = ' ' :=
    fun char member => List.eq_of_mem_replicate member
  have inside : ∀ char ∈ List.replicate spaces ' ', isInline char = true := by
    intro char member
    rw [areSpaces char member]
    decide
  rw [skip_run rfl (fun char member => by rw [areSpaces char member, passes]) stops,
    advanceBy_inline inside, List.length_replicate]

/-! ## Line breaks -/

theorem lineBreak?_of_inline
    {cursor : Cursor}
    (inside : isBreak cursor.next = false) :
    cursor.lineBreak? = none := by
  have noSeparator : (cursor.next == '\u2028' || cursor.next == '\u2029') = false := by
    simp only [isBreak, Bool.or_eq_false_iff] at inside ⊢
    exact ⟨inside.1.2, inside.2⟩
  simp [lineBreak?, inside, noSeparator]

theorem lineBreak?_of_break
    {cursor : Cursor}
    (ends : isBreak cursor.next = true)
    (noReturn : cursor.next ≠ '\r') :
    cursor.lineBreak? = some (normalBreak cursor.next, cursor.advance) := by
  have single : cursor.continuesWith ['\r', '\n'] = false := by
    unfold continuesWith
    unfold next at noReturn
    cases left : cursor.rest with
    | nil => rfl
    | cons first rest =>
        rw [left, List.headD_cons] at noReturn
        simp [List.isPrefixOf, noReturn.symm]
  unfold lineBreak? normalBreak
  by_cases separator : (cursor.next == '\u2028' || cursor.next == '\u2029') = true
  · rw [if_pos separator, if_pos separator]
  · rw [if_neg separator, if_neg separator, if_pos ends, single]
    rfl

theorem lineBreak?_cons
    {char : Char}
    (ends : isBreak char = true)
    (noReturn : char ≠ '\r')
    (rest : List Char)
    (index line column : Nat) :
    lineBreak? ⟨char :: rest, index, line, column⟩ =
      some (normalBreak char, ⟨rest, index + 1, line + 1, 0⟩) := by
  have here : next ⟨char :: rest, index, line, column⟩ = char := rfl
  rw [lineBreak?_of_break (here.symm ▸ ends) (here.symm ▸ noReturn), here,
    advance_break ends noReturn]

end Cursor

end PhoneAccounts.Yaml

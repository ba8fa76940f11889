import PhoneAccounts.Proofs.Yaml.Line
import PhoneAccounts.Yaml.Layout.Style
import PhoneAccounts.Yaml.Token.QuotedScalar

/-!
Contract: the steps in which a quoted scalar is read.

The reader takes stretches of a text and is given fuel for each of them.  How much fuel it has
does not matter as long as there is more than characters, so `ReadsTo` speaks of all such
amounts, and each step is a rule from what is read behind it.

Owns: `ReadsTo` with a rule for each kind of stretch, and the gaps.

Does not own: the texts that are written between quotes (see
`PhoneAccounts.Proofs.Yaml.Layout.SingleQuoted` and
`PhoneAccounts.Proofs.Yaml.Layout.DoubleQuoted`).
-/

namespace PhoneAccounts.Yaml

open PhoneAccounts.Text

/-- With more fuel than there are characters, the scalar is read to its end. -/
def ReadsTo
    (style : QuoteStyle)
    (cursor : Cursor)
    (text : List Char)
    (result : List Char × Cursor) :
    Prop :=
  ∀ fuel, cursor.rest.length < fuel → readQuotedRuns style fuel cursor text = .ok result

namespace ReadsTo

variable
  {style : QuoteStyle}
  {cursor : Cursor}
  {char : Char}
  {rest text : List Char}
  {result : List Char × Cursor}

/-- A character that stands for itself in every quoted scalar. -/
theorem plain
    (comes : cursor.rest = char :: rest)
    (isPlain : isQuotedPlain char = true)
    (later : ReadsTo style cursor.advance (text ++ [char]) result) :
    ReadsTo style cursor text result := by
  intro fuel enough
  have shorter : cursor.advance.rest.length < fuel := by
    rw [Cursor.rest_advance, List.length_tail]
    omega
  have read := later fuel shorter
  obtain ⟨fuel, rfl⟩ := exists_fuel enough
  rw [readQuotedRuns] at read ⊢
  rw [Cursor.span_cons comes isPlain]
  simp only [List.append_assoc, List.singleton_append] at read ⊢
  exact read

/-- At a character that is no plain one, the reader decides by it. -/
theorem readQuotedRuns_special
    (comes : cursor.rest = char :: rest)
    (noPlain : isQuotedPlain char = false)
    (fuel : Nat) :
    readQuotedRuns style (fuel + 1) cursor text =
      if style == .single && char == apostrophe && cursor.ahead 1 == apostrophe then
        readQuotedRuns style fuel (cursor.advanceBy 2) (text ++ [apostrophe])
      else if char == style.mark then .ok (text, cursor.advance)
      else if style == .double && char == backslash then
        readEscape cursor.advance >>= fun found =>
          readQuotedRuns style fuel found.2 (text ++ found.1)
      else if char == apostrophe || char == doubleQuote || char == backslash then
        readQuotedRuns style fuel cursor.advance (text ++ [char])
      else
        readQuotedGap cursor >>= fun found =>
          readQuotedRuns style fuel found.2 (text ++ found.1) := by
  have here : cursor.next = char := by
    rw [Cursor.next, comes]
    rfl
  have noRun : cursor.span isQuotedPlain = ([], cursor) := Cursor.span_nil (here ▸ noPlain)
  rw [readQuotedRuns, noRun]
  simp only [List.append_nil, here]

/-- The mark at the end. -/
theorem close
    (comes : cursor.rest = style.mark :: rest)
    (notDoubled : rest.headD endMark ≠ apostrophe) :
    ReadsTo style cursor text (text, cursor.advance) := by
  intro fuel enough
  obtain ⟨fuel, rfl⟩ := exists_fuel enough
  have noPlain : isQuotedPlain style.mark = false := by cases style <;> decide
  have next : (cursor.ahead 1 == apostrophe) = false := by
    rw [beq_eq_false_iff_ne, Cursor.ahead, comes]
    exact notDoubled
  rw [readQuotedRuns_special comes noPlain]
  simp [next]

/-- An apostrophe that is written twice between apostrophes. -/
theorem doubled
    (comes : cursor.rest = apostrophe :: apostrophe :: rest)
    (later : ReadsTo .single (cursor.advanceBy 2) (text ++ [apostrophe]) result) :
    ReadsTo .single cursor text result := by
  intro fuel enough
  have shorter : (cursor.advanceBy 2).rest.length < fuel - 1 := by
    rw [Cursor.rest_advanceBy, List.length_drop, comes]
    rw [comes] at enough
    simp only [List.length_cons] at enough ⊢
    omega
  have read := later (fuel - 1) shorter
  obtain ⟨fuel, rfl⟩ := exists_fuel enough
  have next : (cursor.ahead 1 == apostrophe) = true := by
    rw [beq_iff_eq, Cursor.ahead, comes]
    rfl
  rw [readQuotedRuns_special comes rfl]
  simpa [next] using read

/-- A mark of the other kind of quotes, or a backslash between apostrophes. -/
theorem raw
    (comes : cursor.rest = char :: rest)
    (isMark : (style = .single ∧ (char = doubleQuote ∨ char = backslash)) ∨
      (style = .double ∧ char = apostrophe))
    (later : ReadsTo style cursor.advance (text ++ [char]) result) :
    ReadsTo style cursor text result := by
  intro fuel enough
  have shorter : cursor.advance.rest.length < fuel - 1 := by
    rw [Cursor.rest_advance, List.length_tail, comes]
    rw [comes] at enough
    simp only [List.length_cons] at enough ⊢
    omega
  have read := later (fuel - 1) shorter
  obtain ⟨fuel, rfl⟩ := exists_fuel enough
  rcases isMark with ⟨rfl, rfl | rfl⟩ | ⟨rfl, rfl⟩
  all_goals
    rw [readQuotedRuns_special comes rfl]
    exact read

/-- An escape between double quotes. -/
theorem escape
    (comes : cursor.rest = backslash :: rest)
    {escaped : List Char}
    {after : Cursor}
    (stands : readEscape cursor.advance = .ok (escaped, after))
    (further : after.rest.length ≤ rest.length)
    (later : ReadsTo .double after (text ++ escaped) result) :
    ReadsTo .double cursor text result := by
  intro fuel enough
  have shorter : after.rest.length < fuel - 1 := by
    rw [comes, List.length_cons] at enough
    omega
  have read := later (fuel - 1) shorter
  obtain ⟨fuel, rfl⟩ := exists_fuel enough
  rw [readQuotedRuns_special comes rfl, stands]
  exact read

/-- A gap: blanks, or a line break with the blanks and the breaks around it. -/
theorem readQuotedRuns_gap
    (comes : cursor.rest = char :: rest)
    (blank : isBlankOrEnd char = true)
    {found : List Char}
    {after : Cursor}
    (gap : readQuotedGap cursor = .ok (found, after))
    (fuel : Nat) :
    readQuotedRuns style (fuel + 1) cursor text =
      readQuotedRuns style fuel after (text ++ found) := by
  have noPlain : isQuotedPlain char = false := by simp [isQuotedPlain, blank]
  have noMark : ∀ mark ∈ [apostrophe, doubleQuote, backslash], (char == mark) = false := by
    intro mark member
    rw [beq_eq_false_iff_ne]
    rintro rfl
    have marks : ∀ mark ∈ [apostrophe, doubleQuote, backslash], isBlankOrEnd mark = false := by
      decide
    rw [marks char member] at blank
    exact Bool.false_ne_true blank
  have noApostrophe := noMark apostrophe (by simp)
  have noDoubleQuote := noMark doubleQuote (by simp)
  have noBackslash := noMark backslash (by simp)
  have notEnd : (char == style.mark) = false := by
    cases style
    · exact noApostrophe
    · exact noDoubleQuote
  rw [readQuotedRuns_special comes noPlain, gap]
  simp only [noApostrophe, noDoubleQuote, noBackslash, notEnd, Bool.and_false, Bool.false_and,
    Bool.or_self]
  rfl

theorem gap
    (comes : cursor.rest = char :: rest)
    (blank : isBlankOrEnd char = true)
    {found : List Char}
    {after : Cursor}
    (gap : readQuotedGap cursor = .ok (found, after))
    (further : after.rest.length ≤ rest.length)
    (later : ReadsTo style after (text ++ found) result) :
    ReadsTo style cursor text result := by
  intro fuel enough
  have shorter : after.rest.length < fuel - 1 := by
    rw [comes, List.length_cons] at enough
    omega
  have read := later (fuel - 1) shorter
  obtain ⟨fuel, rfl⟩ := exists_fuel enough
  rw [readQuotedRuns_gap comes blank gap]
  exact read

end ReadsTo

/-! ## Gaps -/

/-- A gap within a line. -/
theorem readQuotedGap_of_spaces
    {spaces rest : List Char}
    (isSpaces : ∀ char ∈ spaces, char = ' ')
    (goesOn : isBlankOrEnd (rest.headD endMark) = false)
    (index line column : Nat) :
    readQuotedGap ⟨spaces ++ rest, index, line, column⟩ =
      .ok (spaces, ⟨rest, index + spaces.length, line, column + spaces.length⟩) := by
  simp only [isBlankOrEnd, isSpaceOrEnd, isBreakOrEnd, Bool.or_eq_false_iff] at goesOn
  obtain ⟨noTab, noSpace, noEnd, noBreak⟩ := goesOn
  have inside : ∀ char ∈ spaces, isInline char = true := by
    intro char member
    rw [isSpaces char member]
    decide
  have taken : Cursor.span (fun char => char == ' ' || char == '	')
      ⟨spaces ++ rest, index, line, column⟩ =
        (spaces, ⟨rest, index + spaces.length, line, column + spaces.length⟩) := by
    rw [Cursor.span_run rfl (fun char member => by simp [isSpaces char member])
      (by rw [noTab, noSpace]; rfl), Cursor.advanceBy_inline inside]
  have within : Cursor.lineBreak? ⟨rest, index + spaces.length, line, column + spaces.length⟩ =
      none := Cursor.lineBreak?_of_inline noBreak
  have notEnd : (Cursor.next ⟨rest, index + spaces.length, line, column + spaces.length⟩ ==
      endMark) = false := noEnd
  unfold readQuotedGap
  rw [taken]
  simp only [within, notEnd]
  rfl

theorem isBreak_of_isWrittenBreak
    {char : Char}
    (isBreaks : TextStyle.isWrittenBreak char = true) :
    isBreak char = true ∧ char ≠ '\r' ∧ char ≠ '-' ∧ char ≠ '.' ∧ char ≠ endMark ∧
      (char == ' ' || char == '\t') = false := by
  simp only [TextStyle.isWrittenBreak, Bool.or_eq_true, beq_iff_eq] at isBreaks
  rcases isBreaks with ((rfl | rfl) | rfl) | rfl <;> decide

/-- The indentation of a line, behind which no more breaks follow. -/
theorem quotedBreaks_of_spaces
    {depth : Nat}
    (positive : 0 < depth)
    {rest : List Char}
    (goesOn : isBlankOrEnd (rest.headD endMark) = false)
    (fuel index line column : Nat) :
    quotedBreaks (fuel + 1) ⟨List.replicate depth ' ' ++ rest, index, line, column⟩ =
      .ok ([], ⟨rest, index + depth, line, column + depth⟩) := by
  simp only [isBlankOrEnd, isSpaceOrEnd, isBreakOrEnd, Bool.or_eq_false_iff] at goesOn
  obtain ⟨noTab, noSpace, -, noBreak⟩ := goesOn
  have noMark := isAtDocumentMark_of_spaces positive rest index line column
  have skipped : Cursor.skip (fun char => char == ' ' || char == '\t')
      ⟨List.replicate depth ' ' ++ rest, index, line, column⟩ =
        ⟨rest, index + depth, line, column + depth⟩ :=
    Cursor.skip_spaces rfl (by rw [noTab, noSpace]; rfl) depth index line column
  have within : Cursor.lineBreak? ⟨rest, index + depth, line, column + depth⟩ = none :=
    Cursor.lineBreak?_of_inline noBreak
  rw [quotedBreaks, noMark, skipped]
  simp only [within]
  rfl

/-- The breaks behind a first one, and the indentation behind them. -/
theorem quotedBreaks_of_breaks
    {breaks rest : List Char}
    (isBreaks : ∀ char ∈ breaks, TextStyle.isWrittenBreak char = true)
    {depth : Nat}
    (positive : 0 < depth)
    (goesOn : isBlankOrEnd (rest.headD endMark) = false)
    {fuel : Nat}
    (enough : breaks.length < fuel)
    (index line column : Nat) :
    ∃ index' line' column', line ≤ line' ∧
      quotedBreaks fuel ⟨breaks ++ (List.replicate depth ' ' ++ rest), index, line, column⟩ =
        .ok (breaks.map normalBreak, ⟨rest, index', line', column'⟩) := by
  obtain ⟨fuel, rfl⟩ := exists_fuel enough
  induction breaks generalizing fuel index line column with
  | nil =>
      exact ⟨_, line, _, Nat.le_refl line,
        quotedBreaks_of_spaces positive goesOn fuel index line column⟩
  | cons first others inductionHypothesis =>
      obtain ⟨ends, noReturn, noDash, noDot, -, notBlank⟩ :=
        isBreak_of_isWrittenBreak (isBreaks first List.mem_cons_self)
      obtain ⟨fuel, rfl⟩ := exists_fuel (Nat.lt_of_succ_lt_succ enough)
      obtain ⟨index', line', column', further, later⟩ := inductionHypothesis
        (fun char member => isBreaks char (List.mem_cons_of_mem first member)) (index + 1)
        (line + 1) 0 fuel (Nat.lt_of_succ_lt_succ enough)
      have noMark : Cursor.isAtDocumentMark
          ⟨first :: (others ++ (List.replicate depth ' ' ++ rest)), index, line, column⟩ = false :=
        isAtDocumentMark_of_ne noDash noDot
      have skipped : Cursor.skip (fun char => char == ' ' || char == '\t')
          ⟨first :: (others ++ (List.replicate depth ' ' ++ rest)), index, line, column⟩ =
            ⟨first :: (others ++ (List.replicate depth ' ' ++ rest)), index, line, column⟩ := by
        rw [Cursor.skip, Cursor.span_nil notBlank]
      have crossed : Cursor.lineBreak?
          ⟨first :: (others ++ (List.replicate depth ' ' ++ rest)), index, line, column⟩ =
            some (normalBreak first,
              ⟨others ++ (List.replicate depth ' ' ++ rest), index + 1, line + 1, 0⟩) :=
        Cursor.lineBreak?_cons ends noReturn _ _ _ _
      refine ⟨index', line', column', by omega, ?_⟩
      rw [List.cons_append, quotedBreaks, noMark, skipped]
      simp only [crossed, later]
      rfl

/-- A gap that crosses lines: what its breaks mean, without the indentation. -/
theorem readQuotedGap_of_breaks
    {first : Char}
    {breaks rest : List Char}
    (isBreaks : ∀ char ∈ first :: breaks, TextStyle.isWrittenBreak char = true)
    {depth : Nat}
    (positive : 0 < depth)
    (goesOn : isBlankOrEnd (rest.headD endMark) = false)
    (index line column : Nat) :
    ∃ index' line' column', line ≤ line' ∧
      readQuotedGap
          ⟨first :: (breaks ++ (List.replicate depth ' ' ++ rest)), index, line, column⟩ =
        .ok (foldBreaks (normalBreak first) (breaks.map normalBreak),
          ⟨rest, index', line', column'⟩) := by
  obtain ⟨ends, noReturn, -, -, notEnd, notBlank⟩ :=
    isBreak_of_isWrittenBreak (isBreaks first List.mem_cons_self)
  have enough : breaks.length <
      (breaks ++ (List.replicate depth ' ' ++ rest)).length + 1 := by
    rw [List.length_append]
    omega
  obtain ⟨index', line', column', further, later⟩ := quotedBreaks_of_breaks
    (fun char member => isBreaks char (List.mem_cons_of_mem first member)) positive goesOn enough
    (index + 1) (line + 1) 0
  have noBlanks : Cursor.span (fun char => char == ' ' || char == '\t')
      ⟨first :: (breaks ++ (List.replicate depth ' ' ++ rest)), index, line, column⟩ =
        ([], ⟨first :: (breaks ++ (List.replicate depth ' ' ++ rest)), index, line, column⟩) :=
    Cursor.span_nil notBlank
  have crossed : Cursor.lineBreak?
      ⟨first :: (breaks ++ (List.replicate depth ' ' ++ rest)), index, line, column⟩ =
        some (normalBreak first,
          ⟨breaks ++ (List.replicate depth ' ' ++ rest), index + 1, line + 1, 0⟩) :=
    Cursor.lineBreak?_cons ends noReturn _ _ _ _
  have goesFurther : (Cursor.next
      ⟨first :: (breaks ++ (List.replicate depth ' ' ++ rest)), index, line, column⟩ ==
        endMark) = false := beq_eq_false_iff_ne.mpr notEnd
  refine ⟨index', line', column', by omega, ?_⟩
  unfold readQuotedGap
  rw [noBlanks]
  simp only [crossed, goesFurther, later]
  rfl

/-! ## Stretches -/

/-- Wherever the written text stands before the mark at the end, it is read as the characters,
and what follows the mark is left. -/
def ReadsAs (style : QuoteStyle) (rest written chars : List Char) : Prop :=
  ∀ text index line column, ∃ index' line' column', line ≤ line' ∧
    ReadsTo style ⟨written ++ style.mark :: rest, index, line, column⟩ text
      (text ++ chars, ⟨rest, index', line', column'⟩)

namespace ReadsAs

variable
  {style : QuoteStyle}
  {char : Char}
  {rest written chars : List Char}

theorem close
    (notDoubled : rest.headD endMark ≠ apostrophe) :
    ReadsAs style rest [] [] := by
  intro text index line column
  have inline : isInline style.mark = true := by cases style <;> decide
  refine ⟨index + 1, line, column + 1, Nat.le_refl line, ?_⟩
  rw [List.append_nil, ← Cursor.advance_inline inline]
  exact ReadsTo.close rfl notDoubled

/-- A stretch in front, after which the reader goes on with what was written behind it. -/
theorem of_step
    (front piece : List Char)
    (step : ∀ text index line column, ∃ index' line' column', line ≤ line' ∧
      ∀ result,
        ReadsTo style ⟨written ++ style.mark :: rest, index', line', column'⟩ (text ++ piece)
            result →
          ReadsTo style ⟨front ++ (written ++ style.mark :: rest), index, line, column⟩ text
            result)
    (later : ReadsAs style rest written chars) :
    ReadsAs style rest (front ++ written) (piece ++ chars) := by
  intro text index line column
  obtain ⟨index', line', column', further, stepped⟩ := step text index line column
  obtain ⟨index'', line'', column'', furtherOn, read⟩ := later (text ++ piece) index' line' column'
  refine ⟨index'', line'', column'', Nat.le_trans further furtherOn, ?_⟩
  rw [List.append_assoc, ← List.append_assoc text piece chars]
  exact stepped _ read

theorem plain
    (isPlain : isQuotedPlain char = true)
    (inline : isInline char = true)
    (later : ReadsAs style rest written chars) :
    ReadsAs style rest (char :: written) (char :: chars) := by
  refine later.of_step [char] [char] fun text index line column => ?_
  refine ⟨index + 1, line, column + 1, Nat.le_refl line, fun result read => ?_⟩
  rw [← Cursor.advance_inline inline] at read
  exact ReadsTo.plain rfl isPlain read

theorem doubled
    (later : ReadsAs .single rest written chars) :
    ReadsAs .single rest (apostrophe :: apostrophe :: written) (apostrophe :: chars) := by
  have twice : ∀ mark ∈ [apostrophe, apostrophe], isInline mark = true := by decide
  refine later.of_step [apostrophe, apostrophe] [apostrophe]
    fun text index line column => ?_
  refine ⟨index + 2, line, column + 2, Nat.le_refl line, fun result read => ?_⟩
  have moved := Cursor.advanceBy_inline twice (written ++ QuoteStyle.single.mark :: rest) index
    line column
  exact ReadsTo.doubled rfl (moved.symm ▸ read)

theorem raw
    (isMark : (style = .single ∧ (char = doubleQuote ∨ char = backslash)) ∨
      (style = .double ∧ char = apostrophe))
    (later : ReadsAs style rest written chars) :
    ReadsAs style rest (char :: written) (char :: chars) := by
  have inline : isInline char = true := by
    rcases isMark with ⟨-, rfl | rfl⟩ | ⟨-, rfl⟩ <;> decide
  refine later.of_step [char] [char] fun text index line column => ?_
  refine ⟨index + 1, line, column + 1, Nat.le_refl line, fun result read => ?_⟩
  rw [← Cursor.advance_inline inline] at read
  exact ReadsTo.raw rfl isMark read

/-- Spaces within a line. -/
theorem spaces
    {run : List Char}
    (nonempty : run ≠ [])
    (isSpaces : ∀ char ∈ run, char = ' ')
    (goesOn : isBlankOrEnd ((written ++ style.mark :: rest).headD endMark) = false)
    (later : ReadsAs style rest written chars) :
    ReadsAs style rest (run ++ written) (run ++ chars) := by
  refine later.of_step _ _ fun text index line column => ?_
  have found := readQuotedGap_of_spaces isSpaces goesOn index line column
  obtain ⟨first, others, rfl⟩ := List.exists_cons_of_ne_nil nonempty
  obtain rfl := isSpaces first List.mem_cons_self
  have shorter : (written ++ style.mark :: rest).length ≤
      (others ++ (written ++ style.mark :: rest)).length :=
    (List.suffix_append _ _).length_le
  exact ⟨_, line, _, Nat.le_refl line, fun result => ReadsTo.gap rfl rfl found shorter⟩

/-- Line breaks, and the indentation of the line behind them. -/
theorem breaks
    {first : Char}
    {more : List Char}
    (isBreaks : ∀ char ∈ first :: more, TextStyle.isWrittenBreak char = true)
    {depth : Nat}
    (positive : 0 < depth)
    (goesOn : isBlankOrEnd ((written ++ style.mark :: rest).headD endMark) = false)
    (later : ReadsAs style rest written chars) :
    ReadsAs style rest (first :: more ++ List.replicate depth ' ' ++ written)
      (foldBreaks (normalBreak first) (more.map normalBreak) ++ chars) := by
  refine later.of_step _ _ fun text index line column => ?_
  obtain ⟨index', line', column', further, found⟩ :=
    readQuotedGap_of_breaks isBreaks positive goesOn index line column
  obtain ⟨ends, -⟩ := isBreak_of_isWrittenBreak (isBreaks first List.mem_cons_self)
  have blank : isBlankOrEnd first = true := by
    simp [isBlankOrEnd, isSpaceOrEnd, isBreakOrEnd, ends]
  have shorter : (written ++ style.mark :: rest).length ≤
      (more ++ (List.replicate depth ' ' ++ (written ++ style.mark :: rest))).length :=
    ((List.suffix_append _ _).trans (List.suffix_append _ _)).length_le
  refine ⟨index', line', column', further, fun result read => ?_⟩
  rw [List.append_assoc]
  exact ReadsTo.gap rfl blank found shorter read

end ReadsAs

end PhoneAccounts.Yaml

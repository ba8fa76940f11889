import PhoneAccounts.Proofs.Yaml.Layout.Runs
import PhoneAccounts.Proofs.Yaml.Line
import PhoneAccounts.Yaml.Token.PlainScalar

/-!
Contract: a text that is written without quotes is read as it is.

The reader takes a word, then the gap behind it, and goes on while the gap has a word behind it
that is indented deeply enough.  A space where the line was broken is a gap that crosses a
line; the break at the end of the text is one behind which nothing is deep enough.

Owns: reading a word, each kind of gap, and a whole text without quotes.

Does not own: where such a text begins (see `PhoneAccounts.Proofs.Yaml.Layout.LineEnd`).
-/

namespace PhoneAccounts.Yaml

/-! ## Words -/

theorem isBlankOrEnd_eq_false_of_word
    {char : Char}
    (kind : RunKind.of char = .word)
    (writable : TextStyle.isWritable char = true) :
    isBlankOrEnd char = false := by
  obtain ⟨noSpace, noBreak⟩ := RunKind.of_eq_word kind
  have noControl : char ≠ '\t' ∧ char ≠ '\r' ∧ char ≠ endMark := by
    refine ⟨?_, ?_, ?_⟩ <;> rintro rfl <;> exact absurd writable (by decide)
  unfold TextStyle.isWrittenBreak at noBreak
  simp only [Bool.or_eq_false_iff, beq_eq_false_iff_ne] at noBreak
  simp [isBlankOrEnd, isSpaceOrEnd, isBreakOrEnd, isBreak, noSpace, noControl, noBreak]

theorem isInline_of_word
    {char : Char}
    (kind : RunKind.of char = .word)
    (writable : TextStyle.isWritable char = true) :
    isInline char = true := by
  have notBlank := isBlankOrEnd_eq_false_of_word kind writable
  have noMark : char ≠ byteOrderMark := by
    rintro rfl
    exact absurd writable (by decide)
  simp only [isBlankOrEnd, isSpaceOrEnd, isBreakOrEnd, Bool.or_eq_false_iff] at notBlank
  simp [isInline, notBlank.2.2.2, noMark]

theorem plainRun_of_blank
    {rest : List Char}
    (blank : isBlankOrEnd (rest.headD endMark) = true) :
    plainRun false rest = [] := by
  cases rest with
  | nil => rfl
  | cons first others =>
      have ends : endsPlain false first (others.headD endMark) = true := by
        rw [List.headD_cons] at blank
        simp [endsPlain, blank]
      rw [plainRun, if_pos ends]

theorem plainRun_of_colon
    {rest : List Char}
    (blank : isBlankOrEnd (rest.headD endMark) = true) :
    plainRun false (':' :: rest) = [] := by
  have ends : endsPlain false ':' (rest.headD endMark) = true := by
    simp only [endsPlain, blank]
    rfl
  rw [plainRun, if_pos ends]

/-- A word is taken up to where a run cannot go on. -/
theorem plainRun_word
    {run rest : List Char}
    (notBlank : ∀ char ∈ run, isBlankOrEnd char = false)
    (noKey : run.getLast? ≠ some ':')
    (stops : plainRun false rest = []) :
    plainRun false (run ++ rest) = run := by
  induction run with
  | nil => exact stops
  | cons first others inductionHypothesis =>
      have firstNotBlank := notBlank first List.mem_cons_self
      have goesOn : endsPlain false first ((others ++ rest).headD endMark) = false := by
        cases others with
        | nil =>
            have noColon : first ≠ ':' := by
              rintro rfl
              exact noKey rfl
            simp [endsPlain, firstNotBlank, noColon]
        | cons second more =>
            have secondNotBlank := notBlank second (by simp)
            simp [endsPlain, firstNotBlank, secondNotBlank]
      have othersEnd : others.getLast? ≠ some ':' := by
        intro last
        apply noKey
        rw [List.getLast?_cons, last]
        rfl
      have later := inductionHypothesis
        (fun char member => notBlank char (List.mem_cons_of_mem first member)) othersEnd
      rw [List.cons_append, plainRun, goesOn, later]
      rfl

/-! ## Gaps -/

/-- A gap within a line. -/
theorem readPlainGap_of_spaces
    {spaces rest : List Char}
    (isSpaces : ∀ char ∈ spaces, char = ' ')
    (noSpace : (rest.headD endMark == ' ') = false)
    (noBreak : isBreak (rest.headD endMark) = false)
    (index line column : Nat) :
    readPlainGap ⟨spaces ++ rest, index, line, column⟩ =
      ⟨spaces, ⟨rest, index + spaces.length, line, column + spaces.length⟩, false⟩ := by
  have inside : ∀ char ∈ spaces, isInline char = true := by
    intro char member
    rw [isSpaces char member]
    decide
  have taken : Cursor.span (· == ' ') ⟨spaces ++ rest, index, line, column⟩ =
      (spaces, ⟨rest, index + spaces.length, line, column + spaces.length⟩) := by
    rw [Cursor.span_run rfl (by simpa using isSpaces) noSpace, Cursor.advanceBy_inline inside]
  have within : Cursor.lineBreak? ⟨rest, index + spaces.length, line, column + spaces.length⟩ =
      none := Cursor.lineBreak?_of_inline noBreak
  unfold readPlainGap
  rw [taken]
  simp only [within]

theorem plainBreaks_of_spaces
    {depth fuel : Nat}
    {rest : List Char}
    (noSpace : (rest.headD endMark == ' ') = false)
    (noBreak : isBreak (rest.headD endMark) = false)
    (enough : depth < fuel)
    (index line column : Nat) :
    plainBreaks fuel ⟨List.replicate depth ' ' ++ rest, index, line, column⟩ =
      (some [], ⟨rest, index + depth, line, column + depth⟩) := by
  induction depth generalizing fuel index column with
  | zero =>
      obtain ⟨fuel, rfl⟩ := exists_fuel enough
      have noSpace : (Cursor.next ⟨rest, index, line, column⟩ == ' ') = false := noSpace
      have within : Cursor.lineBreak? ⟨rest, index, line, column⟩ = none :=
        Cursor.lineBreak?_of_inline noBreak
      show plainBreaks (fuel + 1) ⟨rest, index, line, column⟩ = _
      rw [plainBreaks, noSpace, within]
      rfl
  | succ depth inductionHypothesis =>
      obtain ⟨fuel, rfl⟩ := exists_fuel enough
      have later := inductionHypothesis (Nat.lt_of_succ_lt_succ enough) (index + 1) (column + 1)
      have space : (Cursor.next ⟨List.replicate (depth + 1) ' ' ++ rest, index, line, column⟩ ==
          ' ') = true := rfl
      have moved : Cursor.advance
          ⟨List.replicate (depth + 1) ' ' ++ rest, index, line, column⟩ =
            ⟨List.replicate depth ' ' ++ rest, index + 1, line, column + 1⟩ :=
        Cursor.advance_inline (by decide) _ _ _ _
      rw [plainBreaks, if_pos space, moved, later]
      congr 2 <;> omega

/-- A gap that crosses one line break means a space. -/
theorem readPlainGap_of_newLine
    {rest : List Char}
    (noSpace : (rest.headD endMark == ' ') = false)
    (noBreak : isBreak (rest.headD endMark) = false)
    (depth index line column : Nat)
    (noMark : Cursor.isAtDocumentMark
      ⟨List.replicate depth ' ' ++ rest, index + 1, line + 1, 0⟩ = false) :
    readPlainGap ⟨'\n' :: (List.replicate depth ' ' ++ rest), index, line, column⟩ =
      ⟨[' '], ⟨rest, index + 1 + depth, line + 1, depth⟩, true⟩ := by
  have noSpaces : Cursor.span (· == ' ')
      ⟨'\n' :: (List.replicate depth ' ' ++ rest), index, line, column⟩ =
        ([], ⟨'\n' :: (List.replicate depth ' ' ++ rest), index, line, column⟩) :=
    Cursor.span_run rfl (by simp) rfl
  have crossed : Cursor.lineBreak?
      ⟨'\n' :: (List.replicate depth ' ' ++ rest), index, line, column⟩ =
        some ('\n', ⟨List.replicate depth ' ' ++ rest, index + 1, line + 1, 0⟩) := by
    rw [Cursor.lineBreak?_of_break rfl (by simp [Cursor.next]), Cursor.advance_feed]
    rfl
  have enough : depth < (List.replicate depth ' ' ++ rest).length + 1 := by
    rw [List.length_append, List.length_replicate]
    omega
  have skipped := plainBreaks_of_spaces noSpace noBreak enough (index + 1) (line + 1) 0
  unfold readPlainGap
  rw [noSpaces]
  simp only [crossed, noMark, skipped, Nat.zero_add]
  rfl

/-! ## Texts -/

theorem plainRuns_word
    (indent column : Nat)
    (run : List Char)
    (rest : List (RunKind × List Char)) :
    plainRuns indent column ((.word, run) :: rest) =
      run ++ plainRuns indent (column + run.length) rest := by
  rw [plainRuns]
  exact fun same => absurd same (by simp)

theorem startsToken_word
    {run : List Char}
    (word : IsPlainWord run)
    (rest : List Char) :
    startsToken ((run ++ rest).headD endMark) = true := by
  obtain ⟨char, others, rfl⟩ := List.exists_cons_of_ne_nil word.nonempty
  obtain ⟨kind, writable⟩ := word.kinds char List.mem_cons_self
  have inline := isInline_of_word kind writable
  unfold isInline at inline
  rw [Bool.and_eq_true, Bool.not_eq_true', bne_iff_ne] at inline
  have noComment : char ≠ '#' := by
    rintro rfl
    exact word.noComment rfl
  rw [startsToken_iff]
  exact ⟨beq_eq_false_iff_ne.mpr (RunKind.of_eq_word kind).1, inline.1,
    beq_eq_false_iff_ne.mpr noComment, beq_eq_false_iff_ne.mpr inline.2⟩

theorem startsToken_plainRuns
    {runs : List (RunKind × List Char)}
    (plain : ArePlain runs)
    (indent column : Nat)
    (rest : List Char) :
    startsToken ((plainRuns indent column runs ++ rest).headD endMark) = true := by
  cases plain with
  | last word =>
      rw [plainRuns_word, List.append_assoc]
      exact startsToken_word word _
  | gap word nonempty kinds later =>
      rw [plainRuns_word, List.append_assoc]
      exact startsToken_word word _

/-- A gap is written as its spaces, or as a new line if it is a single space. -/
theorem plainRuns_spaces
    (indent column : Nat)
    (spaces : List Char)
    (rest : List (RunKind × List Char)) :
    ∃ separator next,
      plainRuns indent column ((.spaces, spaces) :: rest) =
          separator ++ plainRuns indent next rest ∧
        (separator = spaces ∨ spaces.length = 1 ∧ separator = newLine indent) := by
  rw [plainRuns]
  by_cases fold : spaces.length = 1 ∧ bestWidth < column
  · exact ⟨newLine indent, indent, if_pos fold, .inr ⟨fold.1, rfl⟩⟩
  · exact ⟨spaces, column + spaces.length, if_neg fold, .inl rfl⟩

/-- However a gap is written, it is read as its spaces, and what follows is deep enough. -/
theorem readPlainGap_of_separator
    {spaces separator : List Char}
    (isSpaces : ∀ char ∈ spaces, char = ' ')
    {indent : Nat}
    (written : separator = spaces ∨ spaces.length = 1 ∧ separator = newLine indent)
    {behind : List Char}
    (starts : startsToken (behind.headD endMark) = true)
    {block : Int}
    (positive : 0 < indent)
    (deep : block ≤ indent)
    {index line column : Nat}
    (inside : block ≤ column) :
    ∃ index' line', ∃ column' : Nat, ∃ crosses, line ≤ line' ∧ block ≤ column' ∧
      readPlainGap ⟨separator ++ behind, index, line, column⟩ =
        ⟨spaces, ⟨behind, index', line', column'⟩, crosses⟩ := by
  obtain ⟨noSpace, noBreak, -⟩ := (startsToken_iff _).mp starts
  rcases written with rfl | ⟨single, rfl⟩
  · exact ⟨_, line, column + separator.length, false, Nat.le_refl line, by omega,
      readPlainGap_of_spaces isSpaces noSpace noBreak index line column⟩
  · obtain ⟨char, rfl⟩ := List.length_eq_one_iff.mp single
    obtain rfl := isSpaces char List.mem_cons_self
    exact ⟨_, line + 1, indent, true, Nat.le_succ line, deep,
      readPlainGap_of_newLine noSpace noBreak indent index line column
        (isAtDocumentMark_of_spaces positive _ _ _ _)⟩

/-- A run cannot go on into a gap. -/
theorem plainRun_of_separator
    {spaces separator : List Char}
    (nonempty : spaces ≠ [])
    (isSpaces : ∀ char ∈ spaces, char = ' ')
    {indent : Nat}
    (written : separator = spaces ∨ spaces.length = 1 ∧ separator = newLine indent)
    (behind : List Char) :
    plainRun false (separator ++ behind) = [] := by
  apply plainRun_of_blank
  rcases written with rfl | ⟨-, rfl⟩
  · obtain ⟨char, others, rfl⟩ := List.exists_cons_of_ne_nil nonempty
    rw [isSpaces char List.mem_cons_self]
    rfl
  · rfl

/-- What is read from a word on: the word, and whatever is read behind its gap. -/
theorem readRuns_word
    {block : Int}
    {fuel : Nat}
    {run rest gap text : List Char}
    {index line column : Nat}
    {crosses : Bool}
    (word : IsPlainWord run)
    (stops : plainRun false rest = []) :
    readRuns false block (fuel + 1) ⟨gap, ⟨run ++ rest, index, line, column⟩, crosses⟩ text =
      let next := readPlainGap ⟨rest, index + run.length, line, column + run.length⟩
      if next.text.isEmpty || next.cursor.next == '#' ||
          decide ((next.cursor.column : Int) < block) then
        ⟨text ++ gap ++ run, next.cursor, next.crossesLine⟩
      else readRuns false block fuel next (text ++ gap ++ run) := by
  have notBlank : ∀ char ∈ run, isBlankOrEnd char = false := by
    intro char member
    obtain ⟨kind, writable⟩ := word.kinds char member
    exact isBlankOrEnd_eq_false_of_word kind writable
  have inside : ∀ char ∈ run, isInline char = true := by
    intro char member
    obtain ⟨kind, writable⟩ := word.kinds char member
    exact isInline_of_word kind writable
  have taken := plainRun_word notBlank word.noKey stops
  have some : run.isEmpty = false := by simpa using word.nonempty
  have noComment : (Cursor.next ⟨run ++ rest, index, line, column⟩ == '#') = false :=
    ((startsToken_iff _).mp (startsToken_word word rest)).2.2.1
  rw [readRuns]
  simp only [taken, some, noComment, Bool.or_self, Bool.not_false, Bool.true_and,
    Cursor.advanceBy_inline inside]
  rfl

/-- Behind a gap that is deep enough the reading goes on with the next word. -/
theorem readRuns_gap
    {block : Int}
    {fuel : Nat}
    {run rest gap text : List Char}
    {index line column : Nat}
    {crosses : Bool}
    (word : IsPlainWord run)
    (stops : plainRun false rest = [])
    {next : PlainGap}
    (found : readPlainGap ⟨rest, index + run.length, line, column + run.length⟩ = next)
    (nonempty : next.text ≠ [])
    (noComment : next.cursor.next ≠ '#')
    (inside : block ≤ next.cursor.column) :
    readRuns false block (fuel + 1) ⟨gap, ⟨run ++ rest, index, line, column⟩, crosses⟩ text =
      readRuns false block fuel next (text ++ gap ++ run) := by
  have goesOn : (next.text.isEmpty || next.cursor.next == '#' ||
      decide ((next.cursor.column : Int) < block)) = false := by
    simp only [Bool.or_eq_false_iff, List.isEmpty_eq_false_iff, beq_eq_false_iff_ne,
      decide_eq_false_iff_not]
    exact ⟨⟨nonempty, noComment⟩, by omega⟩
  rw [readRuns_word word stops]
  simp only [found, goesOn]
  rfl

/-- A text without quotes is read from its first word up to the line behind it. -/
theorem readRuns_plain
    {runs : List (RunKind × List Char)}
    (plain : ArePlain runs)
    {indent depth : Nat}
    {block : Int}
    (positive : 0 < indent)
    (deep : block ≤ indent)
    (shallow : (depth : Int) < block)
    {tail : List Char}
    (begins : BeginsToken tail)
    {fuel written : Nat}
    (enough : (plainRuns indent written runs).length < fuel)
    (gap text : List Char)
    (index line column : Nat)
    (inside : block ≤ column)
    (crosses : Bool) :
    ∃ index' line', line < line' ∧
      readRuns false block fuel
          ⟨gap, ⟨plainRuns indent written runs ++ '\n' :: (List.replicate depth ' ' ++ tail),
            index, line, column⟩, crosses⟩ text =
        ⟨text ++ gap ++ runs.flatMap Prod.snd, ⟨tail, index', line', depth⟩, true⟩ := by
  induction plain generalizing fuel written gap text index line column crosses with
  | @last run word =>
      obtain ⟨fuel, rfl⟩ := exists_fuel enough
      obtain ⟨noSpace, noBreak, -⟩ := (startsToken_iff _).mp begins.startsToken
      have ended := readPlainGap_of_newLine noSpace noBreak
        depth (index + run.length) line (column + run.length)
        (isAtDocumentMark_of_line begins _ _ _ _)
      have tooShallow : decide ((depth : Int) < block) = true := decide_eq_true shallow
      refine ⟨index + run.length + 1 + depth, line + 1, Nat.lt_succ_self line, ?_⟩
      rw [plainRuns_word, plainRuns, List.append_nil, readRuns_word word (plainRun_of_blank rfl)]
      simp only [ended, tooShallow, Bool.or_true, if_true]
      simp
  | @gap run spaces rest word nonempty isSpaces later inductionHypothesis =>
      obtain ⟨fuel, rfl⟩ := exists_fuel enough
      obtain ⟨separator, next, shown, isWritten⟩ :=
        plainRuns_spaces indent (written + run.length) spaces rest
      have starts := startsToken_plainRuns later indent next
        ('\n' :: (List.replicate depth ' ' ++ tail))
      obtain ⟨-, -, noComment, -⟩ := (startsToken_iff _).mp starts
      obtain ⟨behindIndex, behindLine, behindColumn, crossed, forward, deepEnough, found⟩ :=
        readPlainGap_of_separator isSpaces isWritten starts positive deep
          (show block ≤ ((column + run.length : Nat) : Int) by omega)
      have stops := plainRun_of_separator nonempty isSpaces isWritten
        (plainRuns indent next rest ++ '\n' :: (List.replicate depth ' ' ++ tail))
      rw [plainRuns_word, shown] at enough ⊢
      have short : (plainRuns indent next rest).length < fuel := by
        have some := List.length_pos_iff.mpr word.nonempty
        simp only [List.length_append] at enough
        omega
      obtain ⟨index', line', further, read⟩ := inductionHypothesis short spaces
        (text ++ gap ++ run) behindIndex behindLine behindColumn deepEnough crossed
      refine ⟨index', line', Nat.lt_of_le_of_lt forward further, ?_⟩
      rw [List.append_assoc, List.append_assoc, readRuns_gap word stops found nonempty
        (beq_eq_false_iff_ne.mp noComment) deepEnough, read]
      simp

/-- A text that is written without quotes is read as it is, up to the front of the line behind
it. -/
theorem readPlain_plainRuns
    {runs : List (RunKind × List Char)}
    (plain : ArePlain runs)
    (indent depth : Nat)
    (block : Int)
    (positive : 0 < indent)
    (deep : block ≤ indent)
    (shallow : (depth : Int) < block)
    {tail : List Char}
    (begins : BeginsToken tail)
    (written index line column : Nat)
    (inside : block ≤ column) :
    ∃ index' line', line < line' ∧
      readPlain false block
          ⟨plainRuns indent written runs ++ '\n' :: (List.replicate depth ' ' ++ tail),
            index, line, column⟩ =
        ⟨runs.flatMap Prod.snd, ⟨tail, index', line', depth⟩, true⟩ := by
  have enough : (plainRuns indent written runs).length <
      (plainRuns indent written runs ++
        '\n' :: (List.replicate depth ' ' ++ tail)).length + 1 := by
    rw [List.length_append]
    omega
  exact readRuns_plain plain positive deep shallow begins enough [] [] index line column inside
    false

/-! ## Keys -/

/-- A word before a colon and a blank is read without the colon. -/
theorem readPlain_key
    {run rest : List Char}
    (word : IsPlainWord run)
    (blank : isBlankOrEnd (rest.headD endMark) = true)
    (block : Int)
    (index line column : Nat) :
    readPlain false block ⟨run ++ ':' :: rest, index, line, column⟩ =
      ⟨run, ⟨':' :: rest, index + run.length, line, column + run.length⟩, false⟩ := by
  have noGap : readPlainGap ⟨':' :: rest, index + run.length, line, column + run.length⟩ =
      ⟨[], ⟨':' :: rest, index + run.length, line, column + run.length⟩, false⟩ :=
    readPlainGap_of_spaces (fun char member => absurd member List.not_mem_nil) rfl rfl _ _ _
  rw [readPlain, readRuns_word word (plainRun_of_colon blank)]
  simp only [noGap]
  rfl

end PhoneAccounts.Yaml

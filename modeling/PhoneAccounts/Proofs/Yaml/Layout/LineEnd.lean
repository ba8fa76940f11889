import PhoneAccounts.Proofs.Yaml.Layout.Scalar
import PhoneAccounts.Proofs.Yaml.Number
import PhoneAccounts.Proofs.Yaml.Token.Scanning
import PhoneAccounts.Yaml.Layout.Outline

/-!
Contract: the tokens of what stands behind a key or a dash on the same line.

Owns: `EndsLine`, with a rule for each kind of scalar and for empty collections.

Does not own: collections that take lines of their own (see
`PhoneAccounts.Proofs.Yaml.Layout.Outline`).
-/

namespace PhoneAccounts.Yaml

open PhoneAccounts.Text

/-! ## Values on one line -/

/-- What follows a space and ends with its line is read as some tokens, if it lies deeper than
the block around it and its own further lines do too. -/
structure EndsLine (depth : Nat) (body : List Char) (found : List Token) : Prop where
  starts : ∀ rest, startsToken ((body ++ rest).headD endMark) = true
  scans : ∀ {most : Nat} {text : List Char} {produced : List Token} {indent : Int}
    {outer : List Int} {tokens : List Token} {index line column : Nat} {allowed : Bool},
    most ≤ indent → indent < depth → indent < column →
      Lexer.ScansLine most text (found.reverse ++ produced) indent outer tokens →
        Lexer.Scans ⟨⟨body ++ '\n' :: text, index, line, column⟩, produced, indent, outer, allowed,
          none, []⟩ tokens

namespace EndsLine

theorem emptySequence (depth : Nat) :
    EndsLine depth ['[', ']'] [.flowSequenceStart, .flowSequenceEnd] where
  starts _ := rfl
  scans _ _ deeper scans := scans.emptyCollection (by decide)
    (fun lexer => (Lexer.readToken_of_flow lexer).1)
    (fun lexer => (Lexer.readToken_of_flow lexer).2.1) deeper

theorem emptyMapping (depth : Nat) :
    EndsLine depth ['\x7b', '\x7d'] [.flowMappingStart, .flowMappingEnd] where
  starts _ := rfl
  scans _ _ deeper scans := scans.emptyCollection (by decide)
    (fun lexer => (Lexer.readToken_of_flow lexer).2.2.1)
    (fun lexer => (Lexer.readToken_of_flow lexer).2.2.2) deeper

theorem plain
    {runs : List (RunKind × List Char)}
    (arePlain : ArePlain runs)
    {depth written : Nat}
    (begins : ∀ rest index line column, Lexer.beginsPlain false
      ⟨plainRuns depth written runs ++ rest, index, line, column⟩ = true) :
    EndsLine depth (plainRuns depth written runs) [.scalar (runs.flatMap Prod.snd) true] where
  starts := startsToken_plainRuns arePlain depth written
  scans shallow deep deeper scans := scans.plain arePlain shallow deep deeper (begins _ _ _ _)

/-- A single word. -/
theorem word
    {run : List Char}
    (isWord : IsPlainWord run)
    (begins : ∀ rest index line column,
      Lexer.beginsPlain false ⟨run ++ rest, index, line, column⟩ = true)
    (depth : Nat) :
    EndsLine depth run [.scalar run true] := by
  have written : plainRuns depth 0 [(.word, run)] = run := by
    rw [plainRuns_word, plainRuns, List.append_nil]
  have whole := plain (.last isWord) (written.symm ▸ begins)
  rw [written, List.flatMap_singleton] at whole
  exact whole

theorem beginsPlain_of_first
    {run : List Char}
    (nonempty : run ≠ [])
    (isPlain : ∀ char ∈ run.head?,
      (!(isBlankOrEnd char || Lexer.reservedMarks.contains char)) = true)
    (rest : List Char)
    (index line column : Nat) :
    Lexer.beginsPlain false ⟨run ++ rest, index, line, column⟩ = true := by
  obtain ⟨first, others, rfl⟩ := List.exists_cons_of_ne_nil nonempty
  have next : Cursor.next ⟨first :: others ++ rest, index, line, column⟩ = first := rfl
  rw [Lexer.beginsPlain, next, isPlain first rfl, Bool.true_or]

theorem flag (depth : Nat) (value : Bool) :
    EndsLine depth (Outline.flagText value) [.scalar (Outline.flagText value) true] := by
  have isWord : IsPlainWord (Outline.flagText value) := by
    cases value <;> exact ⟨by decide, by decide, by decide, by decide⟩
  refine word isWord (beginsPlain_of_first isWord.nonempty ?_) depth
  intro first isFirst
  cases value <;> cases isFirst <;> decide

theorem integer (depth : Nat) (value : Int) :
    EndsLine depth (integerText value) [.scalar (integerText value) true] := by
  have kinds : ∀ char ∈ integerText value,
      RunKind.of char = .word ∧ TextStyle.isWritable char = true :=
    forall_mem_integerText (by decide) value
  have noMark : ∀ char ∈ integerText value, char ≠ '#' ∧ char ≠ ':' :=
    forall_mem_integerText (by decide) value
  have isWord : IsPlainWord (integerText value) := {
    nonempty := integerText_ne_nil value
    kinds := kinds
    noComment := fun first => (noMark '#' (List.mem_of_head? first)).1 rfl
    noKey := fun last => (noMark ':' (List.mem_of_getLast? last)).2 rfl }
  have digits : ∀ char ∈ decimalDigits,
      (!(isBlankOrEnd char || Lexer.reservedMarks.contains char)) = true := by
    decide
  refine word isWord ?_ depth
  cases value with
  | ofNat value =>
      exact beginsPlain_of_first (naturalText_ne_nil value) fun char first =>
        forall_mem_naturalText digits value char (List.mem_of_mem_head? first)
  | negSucc value =>
      -- A minus sign begins a number only in front of its digits.
      intro rest index line column
      obtain ⟨first, others, shown⟩ :=
        List.exists_cons_of_ne_nil (naturalText_ne_nil (value + 1))
      have digit := forall_mem_naturalText digits (value + 1) first (shown ▸ List.mem_cons_self)
      rw [Bool.not_eq_true', Bool.or_eq_false_iff] at digit
      have notBlank : isBlankOrEnd (Cursor.ahead ⟨'-' :: first :: others ++ rest, index, line,
          column⟩ 1) = false := digit.1
      rw [integerText, shown, Lexer.beginsPlain, notBlank]
      exact Bool.or_true _

/-- A text that needs no quotes begins a plain scalar. -/
theorem beginsPlain_of_allowsPlain
    {chars : List Char}
    (allows : TextStyle.allowsPlain chars = true)
    (nonempty : chars ≠ [])
    (depth written : Nat)
    (rest : List Char)
    (index line column : Nat) :
    Lexer.beginsPlain false
      ⟨plainRuns depth written (runsOf chars) ++ rest, index, line, column⟩ = true := by
  have noFront : TextStyle.beginsWithMark chars = false := by
    unfold TextStyle.allowsPlain at allows
    simp only [Bool.and_eq_true, Bool.not_eq_true'] at allows
    exact allows.1.2
  have whole := flatMap_runsOf chars
  obtain ⟨run, others, cut, isWord, blank⟩ := (arePlain_runsOf allows nonempty).begins
  obtain ⟨first, more, rfl⟩ := List.exists_cons_of_ne_nil isWord.nonempty
  have notBlank := fun char member =>
    isBlankOrEnd_eq_false_of_word (isWord.kinds char member).1 (isWord.kinds char member).2
  rw [cut, List.flatMap_cons] at whole
  rw [← whole, List.cons_append, TextStyle.beginsWithMark] at noFront
  rw [Bool.or_eq_false_iff, Bool.or_eq_false_iff, Bool.or_eq_false_iff,
    Bool.and_eq_false_iff] at noFront
  obtain ⟨⟨⟨noOpening, noMark⟩, -⟩, -⟩ := noFront
  rw [cut, plainRuns_word, List.append_assoc]
  have next (rest : List Char) : Cursor.next ⟨first :: more ++ rest, index, line, column⟩ = first :=
    rfl
  rw [Lexer.beginsPlain, next, notBlank first List.mem_cons_self, Bool.false_or]
  cases reserved : Lexer.reservedMarks.contains first with
  | false => rfl
  | true =>
      -- A mark that is no opening one is a plain character, unless a blank follows it.
      have isMark : (first == '?' || first == ':' || first == '-') = true := by
        have otherwise : ∀ mark ∈ Lexer.reservedMarks,
            TextStyle.openingMarks.contains mark = true ∨
              (mark == '?' || mark == ':' || mark == '-') = true := by
          decide
        refine (otherwise first (List.contains_iff_mem.mp reserved)).resolve_left ?_
        rw [noOpening]
        exact Bool.false_ne_true
      have goesOn : isBlankOrEnd ((more ++ others.flatMap Prod.snd).headD endMark) = false := by
        refine noMark.resolve_left ?_
        rw [isMark]
        exact Bool.noConfusion
      cases more with
      | nil =>
          rw [List.nil_append, blank] at goesOn
          exact absurd goesOn.symm Bool.false_ne_true
      | cons second further =>
          have behind (rest : List Char) : isBlankOrEnd
              (Cursor.ahead ⟨first :: second :: further ++ rest, index, line, column⟩ 1) = false :=
            notBlank second (by simp)
          rw [Bool.or_eq_true, Bool.or_eq_true] at isMark
          rw [behind]
          rcases isMark with (isMark | isMark) | isMark <;> simp [isMark]

theorem quoted
    {style : QuoteStyle}
    {inside chars : List Char}
    (readsAs : ∀ text, ReadsAs style ('\n' :: text) inside chars)
    (depth : Nat) :
    EndsLine depth (style.mark :: inside ++ [style.mark]) [.scalar chars false] where
  starts rest := by cases style <;> rfl
  scans := by
    intro most text produced indent outer tokens index line column allowed _ _ deeper scans
    rw [List.append_assoc]
    exact scans.quoted (readsAs text) deeper

/-- The token of a text that is written in its style. -/
theorem scalarText
    {depth : Nat}
    (positive : 0 < depth)
    (narrow : depth < bestWidth)
    (column : Nat)
    (chars : List Char) :
    EndsLine depth (Yaml.scalarText depth column chars)
      [.scalar (rereadText chars) (TextStyle.of chars == .plain)] := by
  have notDoubled (text : List Char) : ('\n' :: text).headD endMark ≠ apostrophe := by
    rw [List.headD_cons]
    decide
  unfold Yaml.scalarText rereadText
  cases style : TextStyle.of chars with
  | plain =>
      obtain ⟨allows, isText⟩ := allowsPlain_of_plain style
      have nonempty : chars ≠ [] := by
        rintro rfl
        exact absurd isText (by decide)
      have read := plain (arePlain_runsOf allows nonempty)
        (beginsPlain_of_allowsPlain allows nonempty depth column)
      rw [flatMap_runsOf] at read
      exact read
  | singleQuoted =>
      have writable := areWritable_runsOf (allowsSingleQuotes_of_singleQuoted style)
      exact quoted (fun text => readsAs_singleQuotedRuns writable positive (notDoubled text) _ true)
        depth
  | doubleQuoted =>
      exact quoted (fun text =>
        (readsAs_doubleQuotedRuns positive narrow (notDoubled text) chars).1 _ 0 true) depth

end EndsLine

end PhoneAccounts.Yaml

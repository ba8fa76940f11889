import PhoneAccounts.Proofs.Yaml.Token.PlainScalar
import PhoneAccounts.Proofs.Yaml.Token.QuotedScalar

/-!
Contract: what becomes of a text that is written between apostrophes.

All of it is read back but the next-line characters: they are written as they are, and the
reader takes them for line feeds, of which it drops the first.

Owns: `rereadRun`, and reading a text between apostrophes.

Does not own: which texts are written so (see `PhoneAccounts.Yaml.Layout.Style`).
-/

namespace PhoneAccounts.Yaml

open PhoneAccounts.Text

/-- What is read of a run that is written between apostrophes. -/
def rereadRun : RunKind × List Char → List Char
  | (.breaks, run) =>
      match doubleFirstFeed run with
      | [] => []
      | first :: more => foldBreaks (normalBreak first) (more.map normalBreak)
  | (_, run) => run

/-! ## Words -/

theorem head_singleQuotedRuns
    {runs : List (RunKind × List Char)}
    (writable : AreWritable runs)
    (isWord : ∀ next ∈ runs.head?, next.1 = .word)
    (indent column : Nat)
    (isFirst : Bool)
    (rest : List Char) :
    isBlankOrEnd
      ((singleQuotedRuns indent column isFirst runs ++ apostrophe :: rest).headD endMark) =
        false := by
  cases runs with
  | nil => rfl
  | cons first others =>
      obtain ⟨kind, run⟩ := first
      obtain rfl : kind = .word := isWord (kind, run) rfl
      obtain ⟨char, more, rfl⟩ := List.exists_cons_of_ne_nil writable.1
      obtain ⟨kind, isWritable⟩ := writable.2.1 char List.mem_cons_self
      rw [singleQuotedRuns, doubleApostrophes, List.flatMap_cons]
      by_cases quote : char = apostrophe
      · rw [if_pos quote]
        rfl
      · rw [if_neg quote]
        exact isBlankOrEnd_eq_false_of_word kind isWritable

/-- A word between apostrophes is read as it is. -/
theorem ReadsAs.word
    {run rest written chars : List Char}
    (kinds : ∀ char ∈ run, RunKind.of char = .word ∧ TextStyle.isWritable char = true)
    (later : ReadsAs .single rest written chars) :
    ReadsAs .single rest (doubleApostrophes run ++ written) (run ++ chars) := by
  induction run with
  | nil => exact later
  | cons char others inductionHypothesis =>
      obtain ⟨kind, writable⟩ := kinds char List.mem_cons_self
      have behind := inductionHypothesis fun other member =>
        kinds other (List.mem_cons_of_mem char member)
      rw [doubleApostrophes, List.flatMap_cons, ← doubleApostrophes]
      by_cases quote : char = apostrophe
      · rw [if_pos quote, quote]
        exact behind.doubled
      · rw [if_neg quote]
        by_cases mark : char = doubleQuote ∨ char = backslash
        · exact behind.raw (.inl ⟨rfl, mark⟩)
        · have notBlank := isBlankOrEnd_eq_false_of_word kind writable
          rw [not_or] at mark
          have isPlain : isQuotedPlain char = true := by
            simp [isQuotedPlain, notBlank, quote, mark]
          exact behind.plain isPlain (isInline_of_word kind writable)

/-! ## The inside of the quotes -/

theorem doubleFirstFeed_cons
    {run : List Char}
    (nonempty : run ≠ [])
    (isBreaks : ∀ char ∈ run, TextStyle.isWrittenBreak char = true) :
    ∃ first more, doubleFirstFeed run = first :: more ∧
      ∀ char ∈ first :: more, TextStyle.isWrittenBreak char = true := by
  obtain ⟨first, others, rfl⟩ := List.exists_cons_of_ne_nil nonempty
  unfold doubleFirstFeed
  by_cases feed : first = '\n'
  · subst feed
    refine ⟨'\n', '\n' :: others, rfl, ?_⟩
    intro char member
    rcases List.mem_cons.mp member with rfl | member
    · rfl
    · exact isBreaks char member
  · exact ⟨first, others, if_neg (by simpa using feed), isBreaks⟩

/-- The inside of a text between apostrophes is read run by run. -/
theorem readsAs_singleQuotedRuns
    {runs : List (RunKind × List Char)}
    (writable : AreWritable runs)
    {indent : Nat}
    (positive : 0 < indent)
    {rest : List Char}
    (notDoubled : rest.headD endMark ≠ apostrophe)
    (column : Nat)
    (isFirst : Bool) :
    ReadsAs .single rest (singleQuotedRuns indent column isFirst runs)
      (runs.flatMap rereadRun) := by
  induction runs generalizing column isFirst with
  | nil => exact ReadsAs.close notDoubled
  | cons first others inductionHypothesis =>
      obtain ⟨kind, run⟩ := first
      obtain ⟨nonempty, kinds, border, othersWritable⟩ := writable
      have later (column : Nat) := inductionHypothesis othersWritable column false
      have goesOn (notWord : kind ≠ .word) (column : Nat) :=
        head_singleQuotedRuns othersWritable
          (fun next isNext => (border next isNext).2.resolve_left notWord) indent column false rest
      rw [List.flatMap_cons]
      cases kind with
      | word => exact (later _).word kinds
      | spaces =>
          have isSpaces : ∀ char ∈ run, char = ' ' :=
            fun char member => RunKind.of_eq_spaces (kinds char member).1
          rw [singleQuotedRuns]
          split
          · -- The line is broken here; the break is read as the one space that it replaces.
            next broken =>
              obtain ⟨space, single⟩ := List.length_eq_one_iff.mp broken.1
              obtain rfl : space = ' ' := isSpaces space (single ▸ List.mem_singleton_self space)
              subst single
              have isBreaks : ∀ char ∈ ['\n'], TextStyle.isWrittenBreak char = true := by decide
              exact (later indent).breaks isBreaks positive (goesOn (by simp) indent)
          · exact (later _).spaces nonempty isSpaces (goesOn (by simp) _)
      | breaks =>
          have isBreaks : ∀ char ∈ run, TextStyle.isWrittenBreak char = true :=
            fun char member => RunKind.of_eq_breaks (kinds char member).1
          obtain ⟨first, more, doubled, allBreaks⟩ := doubleFirstFeed_cons nonempty isBreaks
          have read := (later indent).breaks allBreaks positive (goesOn (by simp) indent)
          simp only [singleQuotedRuns, rereadRun, doubled]
          exact read

end PhoneAccounts.Yaml

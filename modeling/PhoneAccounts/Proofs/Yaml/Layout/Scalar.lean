import PhoneAccounts.Proofs.Yaml.Layout.DoubleQuoted
import PhoneAccounts.Proofs.Yaml.Layout.SingleQuoted

/-!
Contract: which texts survive being written and read.

Owns: `rereadText`, what a text is read as, and the texts that are read as they are.

Does not own: the document around a text.
-/

namespace PhoneAccounts.Yaml

open PhoneAccounts.Text

/-- What a written text is read as. -/
def rereadText (chars : List Char) : List Char :=
  match TextStyle.of chars with
  | .plain => chars
  | .singleQuoted => (runsOf chars).flatMap rereadRun
  | .doubleQuoted => chars

/-! ## Styles -/

theorem allowsPlain_of_plain
    {chars : List Char}
    (plain : TextStyle.of chars = .plain) :
    TextStyle.allowsPlain chars = true ∧ Tag.ofPlain chars = .text := by
  unfold TextStyle.of at plain
  split at plain
  · next allows => simpa using allows
  · split at plain <;> exact absurd plain (by simp)

theorem allowsSingleQuotes_of_singleQuoted
    {chars : List Char}
    (quoted : TextStyle.of chars = .singleQuoted) :
    TextStyle.allowsSingleQuotes chars = true := by
  unfold TextStyle.of at quoted
  split at quoted
  · exact absurd quoted (by simp)
  · split at quoted
    · next allows => exact allows
    · exact absurd quoted (by simp)

/-! ## Lost characters -/

theorem normalBreak_of_isWrittenBreak
    {char : Char}
    (isBreaks : TextStyle.isWrittenBreak char = true) :
    normalBreak char ≠ '\x85' ∧ (char ≠ '\x85' → normalBreak char = char) := by
  simp only [TextStyle.isWrittenBreak, Bool.or_eq_true, beq_iff_eq] at isBreaks
  rcases isBreaks with ((rfl | rfl) | rfl) | rfl <;> decide

theorem map_normalBreak
    {run : List Char}
    (isBreaks : ∀ char ∈ run, TextStyle.isWrittenBreak char = true)
    (noNextLine : '\x85' ∉ run) :
    run.map normalBreak = run := by
  have same : run.map normalBreak = run.map id := by
    refine List.map_congr_left fun char member => ?_
    refine (normalBreak_of_isWrittenBreak (isBreaks char member)).2 ?_
    rintro rfl
    exact noNextLine member
  rw [same, List.map_id]

/-- Nothing that is read holds a next-line character. -/
theorem nextLine_notMem_rereadRun
    {kind : RunKind}
    {run : List Char}
    (kinds : ∀ char ∈ run, RunKind.of char = kind) :
    '\x85' ∉ rereadRun (kind, run) := by
  have isBreaks : RunKind.of '\x85' = .breaks := by decide
  cases kind with
  | word => exact fun member => absurd ((kinds _ member).symm.trans isBreaks) (by decide)
  | spaces => exact fun member => absurd ((kinds _ member).symm.trans isBreaks) (by decide)
  | breaks =>
      have mapped : ∀ more : List Char, (∀ char ∈ more, RunKind.of char = .breaks) →
          '\x85' ∉ more.map normalBreak := by
        intro more moreKinds member
        obtain ⟨char, isMember, same⟩ := List.mem_map.mp member
        have ends := RunKind.of_eq_breaks (moreKinds char isMember)
        exact (normalBreak_of_isWrittenBreak ends).1 same
      have doubledKinds : ∀ char ∈ doubleFirstFeed run, RunKind.of char = .breaks := by
        intro char member
        unfold doubleFirstFeed at member
        split at member
        · rcases List.mem_cons.mp member with rfl | member
          · rfl
          · exact kinds char member
        · exact kinds char member
      simp only [rereadRun]
      revert doubledKinds
      cases doubleFirstFeed run with
      | nil => exact fun _ => List.not_mem_nil
      | cons first more =>
          intro doubledKinds
          have noFirst := mapped [first] fun char member =>
            doubledKinds char (List.mem_singleton.mp member ▸ List.mem_cons_self)
          have noMore := mapped more fun char member =>
            doubledKinds char (List.mem_cons_of_mem first member)
          rw [List.map_singleton, List.mem_singleton] at noFirst
          simp only [foldBreaks]
          split
          · rw [List.mem_cons, not_or]
            exact ⟨noFirst, noMore⟩
          · split
            · decide
            · exact noMore

/-- Without a next-line character, a run is read as it is. -/
theorem rereadRun_eq
    {kind : RunKind}
    {run : List Char}
    (nonempty : run ≠ [])
    (kinds : ∀ char ∈ run, RunKind.of char = kind)
    (noNextLine : '\x85' ∉ run) :
    rereadRun (kind, run) = run := by
  cases kind with
  | word => rfl
  | spaces => rfl
  | breaks =>
      have isBreaks : ∀ char ∈ run, TextStyle.isWrittenBreak char = true :=
        fun char member => RunKind.of_eq_breaks (kinds char member)
      have mapped := map_normalBreak isBreaks noNextLine
      obtain ⟨first, more, rfl⟩ := List.exists_cons_of_ne_nil nonempty
      simp only [rereadRun, doubleFirstFeed, List.head?_cons, Option.some.injEq]
      by_cases feed : first = '\n'
      · -- The line feed was doubled, and one of the two is dropped again.
        have normal : normalBreak '\n' = '\n' := rfl
        rw [if_pos feed]
        simp only [normal, mapped, foldBreaks]
        rfl
      · rw [List.map_cons, List.cons.injEq] at mapped
        rw [if_neg feed]
        simp only [mapped, foldBreaks, bne_iff_ne, ne_eq, feed, not_false_eq_true, if_true]

theorem flatMap_rereadRun_eq_iff
    {runs : List (RunKind × List Char)}
    (writable : AreWritable runs) :
    runs.flatMap rereadRun = runs.flatMap Prod.snd ↔ '\x85' ∉ runs.flatMap Prod.snd := by
  constructor
  · intro same
    rw [← same]
    clear same
    induction runs with
    | nil => exact List.not_mem_nil
    | cons first others inductionHypothesis =>
        obtain ⟨kind, run⟩ := first
        obtain ⟨-, kinds, -, othersWritable⟩ := writable
        rw [List.flatMap_cons, List.mem_append, not_or]
        exact ⟨nextLine_notMem_rereadRun fun char member => (kinds char member).1,
          inductionHypothesis othersWritable⟩
  · intro noNextLine
    induction runs with
    | nil => rfl
    | cons first others inductionHypothesis =>
        obtain ⟨kind, run⟩ := first
        obtain ⟨nonempty, kinds, -, othersWritable⟩ := writable
        rw [List.flatMap_cons, List.mem_append, not_or] at noNextLine
        rw [List.flatMap_cons, List.flatMap_cons, inductionHypothesis othersWritable noNextLine.2,
          rereadRun_eq nonempty (fun char member => (kinds char member).1) noNextLine.1]

/-- A text is read as it is, unless it is written between apostrophes and holds a next-line
character. -/
theorem rereadText_eq_iff (chars : List Char) :
    rereadText chars = chars ↔ (TextStyle.of chars = .singleQuoted → '\x85' ∉ chars) := by
  unfold rereadText
  cases style : TextStyle.of chars with
  | plain => simp
  | doubleQuoted => simp
  | singleQuoted =>
      have writable := areWritable_runsOf (allowsSingleQuotes_of_singleQuoted style)
      have survives := flatMap_rereadRun_eq_iff writable
      rw [flatMap_runsOf] at survives
      simpa using survives

end PhoneAccounts.Yaml

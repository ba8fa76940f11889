import PhoneAccounts.Yaml.Layout.Scalar

/-!
Contract: the runs into which a text is cut when it is written.

Owns: what is known of the runs of a text that needs no escapes, and of one that needs no
quotes.

Does not own: how the runs are written, or read.
-/

namespace PhoneAccounts.Yaml

open TextStyle

/-! ## Cutting -/

theorem runsOf_cons (char : Char) (rest : List Char) :
    ∃ run runs, runsOf (char :: rest) = (RunKind.of char, char :: run) :: runs := by
  unfold runsOf
  cases runsOf rest with
  | nil => exact ⟨[], [], rfl⟩
  | cons first others =>
      obtain ⟨kind, run⟩ := first
      simp only
      by_cases same : kind = RunKind.of char
      · rw [if_pos same, same]
        exact ⟨run, others, rfl⟩
      · rw [if_neg same]
        exact ⟨[], (kind, run) :: others, rfl⟩

theorem flatMap_runsOf (chars : List Char) : (runsOf chars).flatMap Prod.snd = chars := by
  induction chars with
  | nil => rfl
  | cons char rest inductionHypothesis =>
      unfold runsOf
      cases cut : runsOf rest with
      | nil =>
          rw [cut] at inductionHypothesis
          rw [← inductionHypothesis]
          rfl
      | cons first others =>
          rw [cut] at inductionHypothesis
          obtain ⟨kind, run⟩ := first
          simp only
          split <;> rw [← inductionHypothesis] <;> rfl

theorem RunKind.of_eq_spaces {char : Char} (kind : RunKind.of char = .spaces) : char = ' ' := by
  unfold RunKind.of at kind
  by_cases space : char = ' '
  · exact space
  · rw [if_neg space] at kind
    split at kind <;> exact absurd kind (by simp)

theorem RunKind.of_eq_breaks
    {char : Char}
    (kind : RunKind.of char = .breaks) :
    isWrittenBreak char = true := by
  unfold RunKind.of at kind
  by_cases space : char = ' '
  · rw [if_pos space] at kind
    exact absurd kind (by simp)
  · rw [if_neg space] at kind
    by_cases ends : isWrittenBreak char = true
    · exact ends
    · rw [if_neg ends] at kind
      exact absurd kind (by simp)

theorem RunKind.of_eq_word
    {char : Char}
    (kind : RunKind.of char = .word) :
    char ≠ ' ' ∧ isWrittenBreak char = false := by
  unfold RunKind.of at kind
  by_cases space : char = ' '
  · rw [if_pos space] at kind
    exact absurd kind (by simp)
  · rw [if_neg space] at kind
    by_cases ends : isWrittenBreak char = true
    · rw [if_pos ends] at kind
      exact absurd kind (by simp)
    · exact ⟨space, Bool.eq_false_iff.mpr ends⟩

/-! ## Texts without escapes -/

/-- Each run holds writable characters of its kind, and of two runs side by side exactly one is
a word. -/
def AreWritable : List (RunKind × List Char) → Prop
  | [] => True
  | (kind, run) :: rest =>
      run ≠ [] ∧
        (∀ char ∈ run, RunKind.of char = kind ∧ isWritable char = true) ∧
        (∀ next ∈ rest.head?, next.1 ≠ kind ∧ (kind = .word ∨ next.1 = .word)) ∧
        AreWritable rest

theorem allowsSingleQuotes_tail
    {char : Char}
    {rest : List Char}
    (allows : allowsSingleQuotes (char :: rest) = true) :
    isWritable char = true ∧ allowsSingleQuotes rest = true := by
  unfold allowsSingleQuotes at allows ⊢
  rw [Bool.and_eq_true, List.all_cons, Bool.and_eq_true, Bool.not_eq_true'] at allows
  obtain ⟨⟨first, others⟩, apart⟩ := allows
  refine ⟨first, ?_⟩
  rw [others, Bool.true_and, Bool.not_eq_true']
  cases rest with
  | nil => rfl
  | cons next rest =>
      rw [hasSpaceAtBreak, Bool.or_eq_false_iff] at apart
      exact apart.2

/-- No space and line break stand side by side in a text between apostrophes. -/
theorem isWord_or_isWord
    {char next : Char}
    {rest : List Char}
    (allows : allowsSingleQuotes (char :: next :: rest) = true)
    (different : RunKind.of next ≠ RunKind.of char) :
    RunKind.of char = .word ∨ RunKind.of next = .word := by
  unfold allowsSingleQuotes at allows
  rw [Bool.and_eq_true, Bool.not_eq_true', hasSpaceAtBreak, Bool.or_eq_false_iff,
    Bool.or_eq_false_iff] at allows
  obtain ⟨-, ⟨noSpaceBefore, noSpaceBehind⟩, -⟩ := allows
  cases first : RunKind.of char with
  | word => exact .inl rfl
  | spaces =>
      right
      rw [first] at different
      cases second : RunKind.of next with
      | word => rfl
      | spaces => exact absurd second different
      | breaks =>
          rw [RunKind.of_eq_spaces first, RunKind.of_eq_breaks second] at noSpaceBefore
          exact absurd noSpaceBefore (by simp)
  | breaks =>
      right
      rw [first] at different
      cases second : RunKind.of next with
      | word => rfl
      | breaks => exact absurd second different
      | spaces =>
          rw [RunKind.of_eq_breaks first, RunKind.of_eq_spaces second] at noSpaceBehind
          exact absurd noSpaceBehind (by simp)

theorem areWritable_runsOf
    {chars : List Char}
    (allows : allowsSingleQuotes chars = true) :
    AreWritable (runsOf chars) := by
  induction chars with
  | nil => trivial
  | cons char rest inductionHypothesis =>
      obtain ⟨writable, restAllows⟩ := allowsSingleQuotes_tail allows
      have others := inductionHypothesis restAllows
      have alone : ∀ other ∈ [char], RunKind.of other = .of char ∧ isWritable other = true := by
        intro other member
        rw [List.mem_singleton.mp member]
        exact ⟨rfl, writable⟩
      unfold runsOf
      cases rest with
      | nil => exact ⟨by simp, alone, by simp, trivial⟩
      | cons next rest =>
          obtain ⟨run, runs, cut⟩ := runsOf_cons next rest
          rw [cut] at others ⊢
          simp only
          by_cases same : RunKind.of next = .of char
          · rw [if_pos same]
            obtain ⟨-, kinds, border, later⟩ := others
            refine ⟨by simp, ?_, border, later⟩
            intro other member
            rcases List.mem_cons.mp member with rfl | member
            · exact ⟨same.symm, writable⟩
            · exact kinds other member
          · rw [if_neg same]
            refine ⟨by simp, alone, ?_, others⟩
            intro following isNext
            obtain rfl := Option.some.inj isNext
            exact ⟨same, isWord_or_isWord allows same⟩

/-! ## Texts without quotes -/

/-- A word of a text without quotes: it does not begin like a comment, and does not end like a
key. -/
structure IsPlainWord (run : List Char) : Prop where
  nonempty : run ≠ []
  kinds : ∀ char ∈ run, RunKind.of char = .word ∧ isWritable char = true
  noComment : run.head? ≠ some '#'
  noKey : run.getLast? ≠ some ':'

/-- Words with spaces between them. -/
inductive ArePlain : List (RunKind × List Char) → Prop where
  | last {run : List Char} (word : IsPlainWord run) : ArePlain [(.word, run)]
  | gap {run spaces : List Char} {rest : List (RunKind × List Char)}
      (word : IsPlainWord run)
      (nonempty : spaces ≠ [])
      (kinds : ∀ char ∈ spaces, char = ' ')
      (later : ArePlain rest) :
      ArePlain ((.word, run) :: (.spaces, spaces) :: rest)

/-- A text without quotes begins with a word, behind which a blank comes or nothing. -/
theorem ArePlain.begins
    {runs : List (RunKind × List Char)}
    (plain : ArePlain runs) :
    ∃ run others, runs = (.word, run) :: others ∧ IsPlainWord run ∧
      isBlankOrEnd ((others.flatMap Prod.snd).headD endMark) = true := by
  cases plain with
  | last word => exact ⟨_, [], rfl, word, rfl⟩
  | @gap run spaces rest word nonempty isSpaces later =>
      obtain ⟨space, others, rfl⟩ := List.exists_cons_of_ne_nil nonempty
      obtain rfl := isSpaces space List.mem_cons_self
      exact ⟨run, (.spaces, ' ' :: others) :: rest, rfl, word, rfl⟩

/-- What keeps a text from being read otherwise without quotes.  It holds of every end of such
a text that begins with a word. -/
structure IsUnmarked (chars : List Char) : Prop where
  noBreak : ∀ char ∈ chars, isWrittenBreak char = false
  noKey : ∀ before after,
    chars = before ++ ':' :: after → isBlankOrEnd (after.headD endMark) = false
  noComment : ∀ before after, chars ≠ before ++ ' ' :: '#' :: after
  begins : ∀ first ∈ chars.head?, first ≠ ' ' ∧ first ≠ '#'
  ends : chars.getLast? ≠ some ' '

theorem isPlainWord_of_isUnmarked
    {run : List Char}
    {rest : List (RunKind × List Char)}
    (writable : AreWritable ((.word, run) :: rest))
    (unmarked : IsUnmarked (run ++ rest.flatMap Prod.snd))
    (blank : isBlankOrEnd ((rest.flatMap Prod.snd).headD endMark) = true) :
    IsPlainWord run where
  nonempty := writable.1
  kinds := writable.2.1
  noComment := by
    intro first
    have headed : (run ++ rest.flatMap Prod.snd).head? = some '#' := by
      rw [List.head?_append, first]
      rfl
    exact (unmarked.begins '#' headed).2 rfl
  noKey := by
    intro last
    obtain ⟨front, rfl⟩ := List.getLast?_eq_some_iff.mp last
    have split : front ++ [':'] ++ rest.flatMap Prod.snd =
        front ++ ':' :: rest.flatMap Prod.snd := by simp
    have notBlank := unmarked.noKey front _ split
    rw [blank] at notBlank
    exact absurd notBlank (by simp)

/-- What is known of the first run of a list, from its first character. -/
theorem exists_mem_of_areWritable
    {kind : RunKind}
    {run : List Char}
    {rest : List (RunKind × List Char)}
    (writable : AreWritable ((kind, run) :: rest)) :
    ∃ char others, run = char :: others ∧ RunKind.of char = kind := by
  obtain ⟨char, others, rfl⟩ := List.exists_cons_of_ne_nil writable.1
  exact ⟨char, others, rfl, (writable.2.1 char List.mem_cons_self).1⟩

theorem ne_breaks_of_isUnmarked
    {kind : RunKind}
    {run : List Char}
    {rest : List (RunKind × List Char)}
    (writable : AreWritable ((kind, run) :: rest))
    {chars : List Char}
    (unmarked : IsUnmarked chars)
    (inside : ∀ char ∈ run, char ∈ chars) :
    kind ≠ .breaks := by
  obtain ⟨char, others, rfl, rfl⟩ := exists_mem_of_areWritable writable
  intro isBreaks
  have ends := RunKind.of_eq_breaks isBreaks
  rw [unmarked.noBreak char (inside char List.mem_cons_self)] at ends
  exact Bool.false_ne_true ends

theorem eq_word_of_isUnmarked
    {kind : RunKind}
    {run : List Char}
    {rest : List (RunKind × List Char)}
    (writable : AreWritable ((kind, run) :: rest))
    (unmarked : IsUnmarked (run ++ rest.flatMap Prod.snd)) :
    kind = .word := by
  have notBreaks := ne_breaks_of_isUnmarked writable unmarked
    fun char member => List.mem_append_left _ member
  obtain ⟨char, others, rfl, rfl⟩ := exists_mem_of_areWritable writable
  cases kind : RunKind.of char with
  | word => rfl
  | breaks => exact absurd kind notBreaks
  | spaces =>
      have first : char ∈ (char :: others ++ rest.flatMap Prod.snd).head? := rfl
      exact absurd (RunKind.of_eq_spaces kind) (unmarked.begins char first).1

/-- Behind a word and spaces, the rest of the text is again without marks. -/
theorem IsUnmarked.later
    {run spaces rest : List Char}
    (unmarked : IsUnmarked (run ++ (spaces ++ rest)))
    (nonempty : spaces ≠ [])
    (isSpaces : ∀ char ∈ spaces, char = ' ')
    (some : rest ≠ [])
    (begins : ∀ first ∈ rest.head?, first ≠ ' ') :
    IsUnmarked rest where
  noBreak char member := unmarked.noBreak char (by simp [member])
  noKey before after split := unmarked.noKey (run ++ (spaces ++ before)) after (by simp [split])
  noComment before after split :=
    unmarked.noComment (run ++ (spaces ++ before)) after (by simp [split])
  begins := by
    intro first isFirst
    refine ⟨begins first isFirst, ?_⟩
    rintro rfl
    obtain ⟨front, last, rfl⟩ := List.eq_nil_or_concat spaces |>.resolve_left nonempty
    obtain rfl := isSpaces last (by simp)
    obtain ⟨others, rfl⟩ := List.head?_eq_some_iff.mp isFirst
    exact unmarked.noComment (run ++ front) others (by simp)
  ends := by
    intro last
    apply unmarked.ends
    rw [← List.append_assoc, List.getLast?_append, last]
    rfl

theorem arePlain_of_isUnmarked :
    ∀ {runs : List (RunKind × List Char)},
      AreWritable runs → runs ≠ [] → IsUnmarked (runs.flatMap Prod.snd) → ArePlain runs
  | [], _, nonempty, _ => absurd rfl nonempty
  | [(kind, run)], writable, _, unmarked => by
      obtain rfl := eq_word_of_isUnmarked writable unmarked
      exact .last (isPlainWord_of_isUnmarked writable unmarked rfl)
  | (kind, run) :: (second, spaces) :: rest, writable, _, unmarked => by
      obtain rfl := eq_word_of_isUnmarked writable unmarked
      have later := writable.2.2.2
      have border := writable.2.2.1 (second, spaces) rfl
      have notBreaks := ne_breaks_of_isUnmarked later unmarked
        fun char member => by simp [member]
      obtain rfl : second = .spaces := by
        cases second with
        | spaces => rfl
        | breaks => exact absurd rfl notBreaks
        | word => exact absurd rfl border.1
      have isSpaces : ∀ char ∈ spaces, char = ' ' :=
        fun char member => RunKind.of_eq_spaces (later.2.1 char member).1
      have word : IsPlainWord run := by
        refine isPlainWord_of_isUnmarked writable unmarked ?_
        obtain ⟨char, others, rfl⟩ := List.exists_cons_of_ne_nil later.1
        rw [isSpaces char List.mem_cons_self]
        rfl
      cases rest with
      | nil =>
          -- Nothing comes behind the spaces, but the text does not end with one.
          exfalso
          obtain ⟨front, last, rfl⟩ := List.eq_nil_or_concat spaces |>.resolve_left later.1
          apply unmarked.ends
          rw [isSpaces last (by simp)]
          simp
      | cons next others =>
          obtain ⟨third, following⟩ := next
          have notSpaces := (later.2.2.1 (third, following) rfl).1
          have some : following ++ others.flatMap Prod.snd ≠ [] := by
            simp [later.2.2.2.1]
          have begins :
              ∀ first ∈ (following ++ others.flatMap Prod.snd).head?, first ≠ ' ' := by
            obtain ⟨char, more, rfl, rfl⟩ := exists_mem_of_areWritable later.2.2.2
            intro first isFirst same
            obtain rfl : char = first := Option.some.inj isFirst
            exact notSpaces (by rw [same]; rfl)
          exact .gap word later.1 isSpaces
            (arePlain_of_isUnmarked later.2.2.2 (by simp)
              (unmarked.later later.1 isSpaces some begins))

/-! ## Styles -/

theorem holdsMark_of_append
    {before rest : List Char}
    (none : holdsMark (before ++ rest) = false) :
    holdsMark rest = false := by
  induction before with
  | nil => exact none
  | cons char others inductionHypothesis =>
      apply inductionHypothesis
      rw [List.cons_append] at none
      cases tail : others ++ rest with
      | nil => rfl
      | cons next more =>
          rw [tail, holdsMark, Bool.or_eq_false_iff] at none
          exact none.2

theorem noKey_of_allowsPlain
    {chars : List Char}
    (noFront : beginsWithMark chars = false)
    (noMark : holdsMark chars = false)
    {before after : List Char}
    (split : chars = before ++ ':' :: after) :
    isBlankOrEnd (after.headD endMark) = false := by
  subst split
  rcases List.eq_nil_or_concat before with rfl | ⟨front, last, rfl⟩
  · rw [List.nil_append, beginsWithMark] at noFront
    simp only [Bool.or_eq_false_iff] at noFront
    simpa using noFront.1.1.2
  · rw [List.concat_eq_append, List.append_assoc] at noMark
    have here := holdsMark_of_append noMark
    rw [List.singleton_append, holdsMark] at here
    simp only [Bool.or_eq_false_iff] at here
    simpa using here.1.1

theorem isUnmarked_of_allowsPlain
    {chars : List Char}
    (allows : allowsPlain chars = true) :
    IsUnmarked chars := by
  unfold allowsPlain at allows
  simp only [Bool.and_eq_true, Bool.not_eq_true'] at allows
  obtain ⟨⟨⟨⟨-, noBreak⟩, closed⟩, noFront⟩, noMark⟩ := allows
  unfold hasOpenEnd at closed
  rw [Bool.or_eq_false_iff] at closed
  refine ⟨?_, fun _ _ split => noKey_of_allowsPlain noFront noMark split, ?_, ?_, ?_⟩
  · intro char member
    exact Bool.eq_false_iff.mpr (List.any_eq_false.mp noBreak char member)
  · rintro before after rfl
    have here := holdsMark_of_append noMark
    rw [holdsMark] at here
    simp [isBlankOrEnd, isSpaceOrEnd] at here
  · intro first isFirst
    obtain ⟨others, rfl⟩ := List.head?_eq_some_iff.mp isFirst
    constructor
    · rintro rfl
      exact absurd closed.1 (by simp)
    · rintro rfl
      rw [beginsWithMark] at noFront
      simp [openingMarks] at noFront
  · intro last
    rw [last] at closed
    exact absurd closed.2 (by simp)

/-- A text that is written without quotes is cut into words with spaces between them. -/
theorem arePlain_runsOf
    {chars : List Char}
    (allows : allowsPlain chars = true)
    (nonempty : chars ≠ []) :
    ArePlain (runsOf chars) := by
  have quotable : allowsSingleQuotes chars = true := by
    unfold allowsPlain at allows
    simp only [Bool.and_eq_true] at allows
    exact allows.1.1.1.1
  apply arePlain_of_isUnmarked (areWritable_runsOf quotable)
  · intro cut
    have whole := flatMap_runsOf chars
    rw [cut] at whole
    exact nonempty whole.symm
  · rw [flatMap_runsOf]
    exact isUnmarked_of_allowsPlain allows

end PhoneAccounts.Yaml

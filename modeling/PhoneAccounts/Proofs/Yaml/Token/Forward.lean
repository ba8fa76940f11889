import Mathlib.Algebra.Group.Nat.Defs
import PhoneAccounts.Proofs.Yaml.Token.Ahead
import PhoneAccounts.Yaml.Token.QuotedScalar

/-!
Contract: how the readers of single tokens end.

Every reader goes forward from the place where it starts.  What stops it is forbidden by the
grammar, with two exceptions: an escape for a character beyond the last code point, and a number
of too many digits in the version of the language.

Owns: `hasImpossibleNotation`, `ReadsForward` with its rules, and that the readers of marks, of
quoted scalars and of block scalars obey it.

Does not own: the lexer that calls the readers (see `PhoneAccounts.Proofs.Yaml.Token.Stopping`).
-/

namespace PhoneAccounts.Yaml

open PhoneAccounts.Text

/-! ## Notations without a value -/

/-- A backslash, a capital U, and eight hexadecimal digits that no character has. -/
def beginsWithImpossibleEscape : List Char → Bool
  | '\x5C' :: 'U' :: rest =>
      match hexNumber? (rest.take 8) with
      | some code => (rest.take 8).length == 8 && decide (0x110000 ≤ code)
      | none => false
  | _ => false

/-- More digits than a decimal numeral may have. -/
def beginsWithEndlessNumber (chars : List Char) : Bool :=
  decide (longestDecimalNumeral < (chars.takeWhile isDigit).length)

/-- Somewhere in the text stands an escape for a character that does not exist, or a number
that is too long. -/
def hasImpossibleNotation (chars : List Char) : Bool :=
  chars.tails.any fun tail => beginsWithImpossibleEscape tail || beginsWithEndlessNumber tail

theorem hasImpossibleNotation_here
    {chars : List Char}
    (begins : (beginsWithImpossibleEscape chars || beginsWithEndlessNumber chars) = true) :
    hasImpossibleNotation chars = true :=
  List.any_eq_true.mpr ⟨chars, (List.mem_tails _ _).mpr (List.suffix_refl _), begins⟩

theorem hasImpossibleNotation_of_suffix
    {tail chars : List Char}
    (isTail : tail <:+ chars)
    (has : hasImpossibleNotation tail = true) :
    hasImpossibleNotation chars = true := by
  obtain ⟨found, member, begins⟩ := List.any_eq_true.mp has
  have isTail' : found <:+ chars := ((List.mem_tails _ _).mp member).trans isTail
  exact List.any_eq_true.mpr ⟨found, (List.mem_tails _ _).mpr isTail', begins⟩

/-- A hexadecimal digit is below sixteen. -/
theorem hexDigit?_lt {char : Char} {value : Nat} (isDigit : hexDigit? char = some value) :
    value < 16 := by
  unfold hexDigit? at isDigit
  split at isDigit
  · next range =>
      have upper : char.toNat ≤ '9'.toNat := range.2
      have : '9'.toNat - '0'.toNat < 16 := by decide
      have := Option.some.inj isDigit
      omega
  · split at isDigit
    · next range =>
        have upper : char.toNat ≤ 'f'.toNat := range.2
        have : 'f'.toNat - 'a'.toNat + 10 < 16 := by decide
        have := Option.some.inj isDigit
        omega
    · split at isDigit
      · next range =>
          have upper : char.toNat ≤ 'F'.toNat := range.2
          have : 'F'.toNat - 'A'.toNat + 10 < 16 := by decide
          have := Option.some.inj isDigit
          omega
      · exact absurd isDigit (by simp)

/-- Some hexadecimal digits write a number below the power of sixteen that their count
gives. -/
theorem hexNumber?_lt {digits : List Char} {code : Nat} (reads : hexNumber? digits = some code) :
    code < 16 ^ digits.length := by
  have general : ∀ (digits : List Char) (total : Nat) (code : Nat),
      digits.foldlM (fun total char => (hexDigit? char).map (total * 16 + ·)) total = some code →
        code < (total + 1) * 16 ^ digits.length := by
    intro digits
    induction digits with
    | nil =>
        intro total code reads
        have same : total = code := Option.some.inj reads
        simp [same]
    | cons first others inductionHypothesis =>
        intro total code reads
        rw [List.foldlM_cons] at reads
        obtain ⟨next, isNext, reads⟩ := Option.bind_eq_some_iff.mp reads
        obtain ⟨value, isDigit, rfl⟩ := Option.map_eq_some_iff.mp isNext
        have small := hexDigit?_lt isDigit
        calc code
            < (total * 16 + value + 1) * 16 ^ others.length := inductionHypothesis _ _ reads
          _ ≤ ((total + 1) * 16) * 16 ^ others.length := Nat.mul_le_mul_right _ (by omega)
          _ = (total + 1) * 16 ^ (first :: others).length := by
              rw [List.length_cons, Nat.pow_succ, Nat.mul_assoc, Nat.mul_comm 16]
  have bound := general digits 0 code reads
  rwa [Nat.zero_add, Nat.one_mul] at bound

/-! ## Going forward -/

/-- How a reading that starts at a place ends: at a place that is not before it, or stopped by
what the grammar forbids, or by an impossible notation ahead. -/
inductive ReadsForward {Value : Type} (cursor : Cursor) (place : Value → Cursor) :
    Except Fault Value → Prop
  | endsAt {value : Value} (leads : cursor.LeadsTo (place value)) :
      ReadsForward cursor place (.ok value)
  | unparseable : ReadsForward cursor place (.error .unparseable)
  | impossible (ahead : hasImpossibleNotation cursor.rest = true) :
      ReadsForward cursor place (.error .impossibleValue)

namespace ReadsForward

variable {First Second : Type} {cursor : Cursor} {place : First → Cursor}
  {place' : Second → Cursor}

/-- The reading ends where it starts. -/
theorem stays {value : First} (same : place value = cursor) :
    ReadsForward cursor place (.ok value) :=
  .endsAt (same ▸ Cursor.LeadsTo.refl (place value))

/-- What is read from a later place on is read from the place itself on. -/
theorem from_earlier
    {later : Cursor}
    {result : Except Fault First}
    (leads : cursor.LeadsTo later)
    (reads : ReadsForward later place result) :
    ReadsForward cursor place result := by
  cases reads with
  | endsAt further => exact .endsAt (leads.trans further)
  | unparseable => exact .unparseable
  | impossible ahead => exact .impossible (hasImpossibleNotation_of_suffix leads ahead)

/-- Two readings, of which the second starts where the first ends. -/
theorem bind
    {result : Except Fault First}
    {next : First → Except Fault Second}
    (reads : ReadsForward cursor place result)
    (readsOn : ∀ value, ReadsForward (place value) place' (next value)) :
    ReadsForward cursor place' (result >>= next) := by
  cases reads with
  | endsAt leads => exact from_earlier leads (readsOn _)
  | unparseable => exact .unparseable
  | impossible ahead => exact .impossible ahead

theorem ite
    {condition : Prop}
    [Decidable condition]
    {first second : Except Fault First}
    (reads : condition → ReadsForward cursor place first)
    (otherwise : ¬ condition → ReadsForward cursor place second) :
    ReadsForward cursor place (if condition then first else second) := by
  split
  · next holds => exact reads holds
  · next fails => exact otherwise fails

end ReadsForward

/-! ## Marks -/

theorem readName_forward (cursor : Cursor) :
    ReadsForward cursor Prod.snd (readName cursor) := by
  unfold readName
  exact .ite (fun _ => .unparseable) fun _ => .endsAt ((Cursor.LeadsTo.refl cursor).advance.span _)

theorem readTagSuffix_forward (cursor : Cursor) :
    ReadsForward cursor Prod.snd (readTagSuffix cursor) := by
  unfold readTagSuffix
  split
  · exact .unparseable
  · exact .ite (fun _ => .unparseable) fun _ => .endsAt ((Cursor.LeadsTo.refl cursor).advanceBy _)

theorem readTagHandle_forward (cursor : Cursor) :
    ReadsForward cursor Prod.snd (readTagHandle cursor) := by
  have here := Cursor.LeadsTo.refl cursor
  unfold readTagHandle
  refine .ite (fun _ => .unparseable) fun _ => .ite (fun _ => .endsAt here.advance) fun _ => ?_
  exact .ite (fun _ => .unparseable) fun _ => .endsAt (here.advance.span _).advance

theorem readTagBody_forward (cursor : Cursor) :
    ReadsForward cursor Prod.snd (readTagBody cursor) := by
  have here := Cursor.LeadsTo.refl cursor
  have suffixRead (handle : List Char) (behind : Cursor) :
      ReadsForward behind Prod.snd (readTagSuffix behind >>= fun found =>
        .ok (Token.tag (some handle) found.1, found.2)) :=
    .bind (readTagSuffix_forward behind) fun found => .stays rfl
  unfold readTagBody
  refine .ite (fun _ => ?_) fun _ => .ite (fun _ => .endsAt here.advance) fun _ => ?_
  · refine .from_earlier (here.advanceBy 2) (.bind (readTagSuffix_forward _) fun found => ?_)
    exact .ite (fun _ => .unparseable) fun _ => .endsAt (Cursor.LeadsTo.refl found.2).advance
  · refine .ite (fun _ => ?_) fun _ => ?_
    · exact .bind (readTagHandle_forward cursor) fun handle => suffixRead handle.1 handle.2
    · exact .from_earlier here.advance (suffixRead ['!'] _)

theorem readTag_forward (cursor : Cursor) :
    ReadsForward cursor Prod.snd (readTag cursor) := by
  unfold readTag
  refine .bind (readTagBody_forward cursor) fun found => ?_
  exact .ite (fun _ => .stays rfl) fun _ => .unparseable

theorem readVersionNumber_forward (cursor : Cursor) :
    ReadsForward cursor Prod.snd (readVersionNumber cursor) := by
  unfold readVersionNumber
  refine .ite (fun _ => .unparseable) fun _ => .ite (fun endless => ?_) fun _ => ?_
  · have begins : beginsWithEndlessNumber cursor.rest = true := decide_eq_true endless
    exact .impossible (hasImpossibleNotation_here (by rw [begins, Bool.or_true]))
  · exact .endsAt ((Cursor.LeadsTo.refl cursor).span _)

theorem skipLineEnd_forward (cursor : Cursor) :
    ReadsForward cursor id (skipLineEnd cursor) := by
  unfold skipLineEnd
  exact .ite (fun _ => .endsAt (Cursor.LeadsTo.refl cursor).skipSpaces.skipComment.pastBreak)
    fun _ => .unparseable

theorem readVersion_forward (cursor : Cursor) :
    ReadsForward cursor Prod.snd (readVersion cursor) := by
  unfold readVersion
  refine .from_earlier (Cursor.LeadsTo.refl cursor).skipSpaces
    (.bind (readVersionNumber_forward _) fun major => .ite (fun _ => .unparseable) fun _ => ?_)
  refine .from_earlier (Cursor.LeadsTo.refl major.2).advance
    (.bind (readVersionNumber_forward _) fun minor => ?_)
  exact .ite (fun _ => .stays rfl) fun _ => .unparseable

theorem readTagDirective_forward (cursor : Cursor) :
    ReadsForward cursor Prod.snd (readTagDirective cursor) := by
  unfold readTagDirective
  refine .from_earlier (Cursor.LeadsTo.refl cursor).skipSpaces
    (.bind (readTagHandle_forward _) fun handle => .ite (fun _ => .unparseable) fun _ => ?_)
  refine .from_earlier (Cursor.LeadsTo.refl handle.2).skipSpaces
    (.bind (readTagSuffix_forward _) fun start => ?_)
  exact .ite (fun _ => .stays rfl) fun _ => .unparseable

theorem readDirective_forward (cursor : Cursor) :
    ReadsForward cursor Prod.snd (readDirective cursor) := by
  have behindName := (Cursor.LeadsTo.refl cursor).advance.span isNameChar
  have lineRead (directive : Directive) (behind : Cursor) :
      ReadsForward behind Prod.snd (skipLineEnd behind >>= fun after => .ok (directive, after)) :=
    .bind (skipLineEnd_forward behind) fun after => .stays rfl
  unfold readDirective
  cases isName : cursor.advance.span isNameChar with
  | mk name behind =>
      rw [isName] at behindName
      refine .ite (fun _ => .unparseable) fun _ => .from_earlier behindName ?_
      refine .ite (fun _ => ?_) fun _ => .ite (fun _ => ?_) fun _ => ?_
      · exact .bind (readVersion_forward behind) fun version => lineRead version.1 version.2
      · exact .bind (readTagDirective_forward behind) fun tag => lineRead tag.1 tag.2
      · have behindLine := (Cursor.LeadsTo.refl behind).skip fun char => !isBreakOrEnd char
        exact .from_earlier behindLine (lineRead .unknown _)

/-! ## Quoted scalars -/

theorem quotedBreaks_forward (fuel : Nat) (cursor : Cursor) :
    ReadsForward cursor Prod.snd (quotedBreaks fuel cursor) := by
  induction fuel generalizing cursor with
  | zero => exact .unparseable
  | succ fuel inductionHypothesis =>
      have behindBlanks := (Cursor.LeadsTo.refl cursor).skip fun char => char == ' ' || char == '\t'
      rw [quotedBreaks]
      refine .ite (fun _ => .unparseable) fun _ => ?_
      simp only
      split
      · exact .endsAt behindBlanks
      · next char after ends =>
          refine .from_earlier (behindBlanks.lineBreak ends)
            (.bind (inductionHypothesis after) fun more => ?_)
          exact .stays rfl

theorem readQuotedGap_forward (cursor : Cursor) :
    ReadsForward cursor Prod.snd (readQuotedGap cursor) := by
  have behindBlanks := (Cursor.LeadsTo.refl cursor).span fun char => char == ' ' || char == '\t'
  unfold readQuotedGap
  refine .ite (fun _ => .unparseable) fun _ => ?_
  split
  · exact .endsAt behindBlanks
  · next first after ends =>
      refine .from_earlier (behindBlanks.lineBreak ends)
        (.bind (quotedBreaks_forward _ after) fun more => ?_)
      exact .stays rfl

/-- A number is no code point only above the last one, and a fault only then. -/
theorem charOfCode_eq_error {code : Nat} {fault : Fault} (fails : charOfCode code = .error fault) :
    fault = .impossibleValue ∧ 0x110000 ≤ code := by
  unfold charOfCode at fails
  split at fails
  · exact absurd fails (by simp)
  · split at fails
    · exact absurd fails (by simp)
    · next beyond => exact ⟨(Except.error.inj fails).symm, Nat.le_of_not_lt beyond⟩

/-- Of the numeric escapes only the longest reaches beyond the last code point. -/
theorem eq_of_escapeWidth
    {letter : Char}
    {width code : Nat}
    {digits : List Char}
    (isNumeric : escapeWidth? letter = some width)
    (fits : digits.length = width)
    (reads : hexNumber? digits = some code)
    (beyond : 0x110000 ≤ code) :
    letter = 'U' ∧ width = 8 := by
  have small := hexNumber?_lt reads
  unfold escapeWidth? at isNumeric
  split at isNumeric
  · rw [fits, ← Option.some.inj isNumeric] at small
    omega
  · rw [fits, ← Option.some.inj isNumeric] at small
    omega
  · exact ⟨rfl, (Option.some.inj isNumeric).symm⟩
  · exact absurd isNumeric (by simp)

/-- A place at which an impossible escape is read. -/
theorem beginsWithImpossibleEscape_here
    {cursor : Cursor}
    {width code : Nat}
    (isEscape : cursor.next = backslash)
    (isNumeric : escapeWidth? cursor.advance.next = some width)
    (fits : (cursor.advance.advance.rest.take width).length = width)
    (reads : hexNumber? (cursor.advance.advance.rest.take width) = some code)
    (beyond : 0x110000 ≤ code) :
    beginsWithImpossibleEscape cursor.rest = true := by
  obtain ⟨isLong, rfl⟩ := eq_of_escapeWidth isNumeric fits reads beyond
  obtain ⟨chars, index, line, column⟩ := cursor
  simp only [Cursor.next, Cursor.rest_advance] at isEscape isLong fits reads
  obtain ⟨rest, rfl⟩ : ∃ rest, chars = backslash :: 'U' :: rest := by
    match chars with
    | [] => exact absurd isEscape (by decide)
    | [_] => exact absurd (show endMark = 'U' from isLong) (by decide)
    | first :: second :: rest =>
        exact ⟨rest, by rw [show first = backslash from isEscape, show second = 'U' from isLong]⟩
  have begins : beginsWithImpossibleEscape (backslash :: 'U' :: rest) =
      match hexNumber? (rest.take 8) with
      | some code => (rest.take 8).length == 8 && decide (0x110000 ≤ code)
      | none => false := rfl
  simp only [List.tail_cons] at fits reads
  simp [begins, reads, fits, beyond]

/-- An escape behind its backslash. -/
theorem readEscape_forward
    {cursor : Cursor}
    (isEscape : cursor.next = backslash) :
    ReadsForward cursor Prod.snd (readEscape cursor.advance) := by
  have behindMark := (Cursor.LeadsTo.refl cursor).advance
  unfold readEscape
  cases isShort : shortEscape? cursor.advance.next with
  | some char =>
      simp only [isShort]
      exact .endsAt behindMark.advance
  | none =>
      cases isNumeric : escapeWidth? cursor.advance.next with
      | none =>
          simp only [isShort, isNumeric]
          split
          · exact .unparseable
          · next char after ends =>
              exact .from_earlier (behindMark.lineBreak ends) (quotedBreaks_forward _ after)
      | some width =>
          simp only [isShort, isNumeric]
          split
          · exact .unparseable
          · next code reads =>
              split at reads
              · next fits =>
                  cases isChar : charOfCode code with
                  | ok char => exact .endsAt (behindMark.advance.advanceBy width)
                  | error fault =>
                      obtain ⟨rfl, beyond⟩ := charOfCode_eq_error isChar
                      have begins := beginsWithImpossibleEscape_here isEscape isNumeric fits reads
                        beyond
                      exact .impossible (hasImpossibleNotation_here (by rw [begins, Bool.true_or]))
              · exact absurd reads (by simp)

theorem readQuotedRuns_forward
    (style : QuoteStyle)
    (fuel : Nat)
    (cursor : Cursor)
    (text : List Char) :
    ReadsForward cursor Prod.snd (readQuotedRuns style fuel cursor text) := by
  induction fuel generalizing cursor text with
  | zero => exact .unparseable
  | succ fuel inductionHypothesis =>
      have behindRun := (Cursor.LeadsTo.refl cursor).span isQuotedPlain
      rw [readQuotedRuns]
      cases isRun : cursor.span isQuotedPlain with
      | mk run behind =>
          rw [isRun] at behindRun
          have here := Cursor.LeadsTo.refl behind
          refine .from_earlier behindRun ?_
          refine .ite (fun _ => ?_) fun _ => .ite (fun _ => .endsAt here.advance) fun _ => ?_
          · exact .from_earlier (here.advanceBy 2) (inductionHypothesis _ _)
          refine .ite (fun isEscape => ?_) fun _ => .ite (fun _ => ?_) fun _ => ?_
          · have mark : behind.next = backslash := by
              simp only [Bool.and_eq_true, beq_iff_eq] at isEscape
              exact isEscape.2
            exact .bind (readEscape_forward mark) fun escaped => inductionHypothesis escaped.2 _
          · exact .from_earlier here.advance (inductionHypothesis _ _)
          · exact .bind (readQuotedGap_forward behind) fun gap => inductionHypothesis gap.2 _

theorem readQuoted_forward (style : QuoteStyle) (cursor : Cursor) :
    ReadsForward cursor Prod.snd (readQuoted style cursor) :=
  .from_earlier (Cursor.LeadsTo.refl cursor).advance (readQuotedRuns_forward style _ _ [])

/-! ## Block scalars -/

theorem readHeader_forward (cursor : Cursor) :
    ReadsForward cursor Prod.snd (readHeader cursor) := by
  have behindMarks := (Cursor.LeadsTo.refl cursor).readMarks
  unfold readHeader
  cases isHeader : readMarks cursor with
  | mk header behind =>
      rw [isHeader] at behindMarks
      refine .ite (fun _ => .unparseable) fun _ => .from_earlier behindMarks ?_
      exact .bind (skipLineEnd_forward behind) fun after => .stays rfl

/-- A block scalar ends behind its lines, or where it has none. -/
theorem blockEnd_forward
    {cursor : Cursor}
    {lines : List Char × List Char × List Char × Cursor}
    (behindLines : cursor.LeadsTo lines.2.2.2)
    (hasLines : Bool)
    (chomping : Chomping)
    (breaks : List Char) :
    ReadsForward cursor Prod.snd
      (if hasLines then .ok (lines.1 ++ chomping.apply lines.2.1 lines.2.2.1, lines.2.2.2)
      else .ok (chomping.apply [] breaks, cursor)) :=
  .ite (fun _ => .endsAt behindLines) fun _ => .stays rfl

theorem readBlock_forward (style : BlockStyle) (outer : Int) (cursor : Cursor) :
    ReadsForward cursor Prod.snd (readBlock style outer cursor) := by
  unfold readBlock
  refine .from_earlier (Cursor.LeadsTo.refl cursor).advance
    (.bind (readHeader_forward _) fun header => ?_)
  obtain ⟨⟨chomping, indentation⟩, behind⟩ := header
  have here := Cursor.LeadsTo.refl behind
  cases indentation with
  | none =>
      have behindBreaks := here.leadingBreaks (behind.rest.length + 1) 0
      simp only
      generalize leadingBreaks (behind.rest.length + 1) 0 behind = leading at behindBreaks ⊢
      have behindLines := (Cursor.LeadsTo.refl leading.2.2).readLines style
        (max (max 1 (outer + 1)).toNat leading.2.1) (leading.2.2.rest.length + 1) leading.1
      generalize readLines style _ _ leading.2.2 leading.1 = lines at behindLines ⊢
      exact .from_earlier behindBreaks (blockEnd_forward behindLines _ chomping _)
  | some count =>
      have behindBreaks := here.blockBreaks ((max 1 (outer + 1)).toNat + count - 1)
        (behind.rest.length + 1)
      simp only
      generalize blockBreaks _ (behind.rest.length + 1) behind = leading at behindBreaks ⊢
      have behindLines := (Cursor.LeadsTo.refl leading.2).readLines style
        ((max 1 (outer + 1)).toNat + count - 1) (leading.2.rest.length + 1) leading.1
      generalize readLines style _ _ leading.2 leading.1 = lines at behindLines ⊢
      exact .from_earlier behindBreaks (blockEnd_forward behindLines _ chomping _)

end PhoneAccounts.Yaml

import Mathlib.Data.List.Infix
import PhoneAccounts.Proofs.Yaml.Cursor
import PhoneAccounts.Yaml.Token.BlockScalar
import PhoneAccounts.Yaml.Token.PlainScalar

/-!
Contract: places that lie ahead of one another.

Moving a cursor only takes characters away, so what is left of the text at a later place is a
tail of what was left before.

Owns: `Cursor.LeadsTo`, and that every motion that cannot fail leads on.

Does not own: the readers that can fail (see `PhoneAccounts.Proofs.Yaml.Token.Forward`).
-/

namespace PhoneAccounts.Yaml

namespace Cursor

/-- The second place is not before the first: what is left there is a tail of what is left
here. -/
def LeadsTo (earlier later : Cursor) : Prop :=
  later.rest <:+ earlier.rest

namespace LeadsTo

theorem refl (cursor : Cursor) : cursor.LeadsTo cursor := List.suffix_refl _

theorem trans {first second third : Cursor}
    (one : first.LeadsTo second)
    (other : second.LeadsTo third) :
    first.LeadsTo third :=
  List.IsSuffix.trans other one

theorem advance {earlier later : Cursor} (leads : earlier.LeadsTo later) :
    earlier.LeadsTo later.advance := by
  refine leads.trans ?_
  rw [LeadsTo, rest_advance]
  exact List.tail_suffix _

theorem advanceBy {earlier later : Cursor} (leads : earlier.LeadsTo later) (count : Nat) :
    earlier.LeadsTo (later.advanceBy count) := by
  refine leads.trans ?_
  rw [LeadsTo, rest_advanceBy]
  exact List.drop_suffix _ _

theorem span {earlier later : Cursor} (leads : earlier.LeadsTo later) (test : Char → Bool) :
    earlier.LeadsTo (later.span test).2 :=
  leads.advanceBy _

theorem skip {earlier later : Cursor} (leads : earlier.LeadsTo later) (test : Char → Bool) :
    earlier.LeadsTo (later.skip test) :=
  leads.span test

theorem lineBreak
    {earlier later after : Cursor}
    {char : Char}
    (leads : earlier.LeadsTo later)
    (ends : later.lineBreak? = some (char, after)) :
    earlier.LeadsTo after := by
  unfold lineBreak? at ends
  split at ends
  · obtain ⟨-, rfl⟩ := Prod.mk.inj (Option.some.inj ends)
    exact leads.advance
  · split at ends
    · split at ends
      · obtain ⟨-, rfl⟩ := Prod.mk.inj (Option.some.inj ends)
        exact leads.advanceBy 2
      · obtain ⟨-, rfl⟩ := Prod.mk.inj (Option.some.inj ends)
        exact leads.advance
    · exact absurd ends (by simp)

theorem pastBreak {earlier later : Cursor} (leads : earlier.LeadsTo later) :
    earlier.LeadsTo later.pastBreak := by
  unfold Cursor.pastBreak
  split
  · next char after ends => exact leads.lineBreak ends
  · exact leads

theorem skipSpaces {earlier later : Cursor} (leads : earlier.LeadsTo later) :
    earlier.LeadsTo (Yaml.skipSpaces later) :=
  leads.skip _

theorem skipComment {earlier later : Cursor} (leads : earlier.LeadsTo later) :
    earlier.LeadsTo (Yaml.skipComment later) := by
  unfold Yaml.skipComment
  split
  · exact leads.skip _
  · exact leads

/-! ## Plain scalars -/

theorem plainBreaks {earlier later : Cursor} (leads : earlier.LeadsTo later) (fuel : Nat) :
    earlier.LeadsTo (Yaml.plainBreaks fuel later).2 := by
  induction fuel generalizing later with
  | zero => exact leads
  | succ fuel inductionHypothesis =>
      rw [Yaml.plainBreaks]
      split
      · exact inductionHypothesis leads.advance
      · split
        · exact leads
        · next char after ends =>
            split
            · exact leads.lineBreak ends
            · exact inductionHypothesis (leads.lineBreak ends)

theorem readPlainGap {earlier later : Cursor} (leads : earlier.LeadsTo later) :
    earlier.LeadsTo (Yaml.readPlainGap later).cursor := by
  unfold Yaml.readPlainGap
  split
  next spaces after isSpan =>
    have behindSpaces := leads.span (· == ' ')
    rw [isSpan] at behindSpaces
    split
    · exact behindSpaces
    · next char behind ends =>
        have behindBreak : earlier.LeadsTo behind := behindSpaces.lineBreak ends
        split
        · exact behindBreak
        · have further := behindBreak.plainBreaks (behind.rest.length + 1)
          split
          · next isEnd => rwa [isEnd] at further
          · next isEnd => rwa [isEnd] at further

theorem readRuns
    {earlier : Cursor}
    {pending : PlainGap}
    (leads : earlier.LeadsTo pending.cursor)
    (inFlow : Bool)
    (indent : Int)
    (fuel : Nat)
    (text : List Char) :
    earlier.LeadsTo (Yaml.readRuns inFlow indent fuel pending text).cursor := by
  induction fuel generalizing pending text with
  | zero => exact leads
  | succ fuel inductionHypothesis =>
      rw [Yaml.readRuns]
      have further := (leads.advanceBy (plainRun inFlow pending.cursor.rest).length).readPlainGap
      simp only
      split
      · exact leads
      · split
        · exact further
        · exact inductionHypothesis further _

theorem readPlain (inFlow : Bool) (indent : Int) (cursor : Cursor) :
    cursor.LeadsTo (Yaml.readPlain inFlow indent cursor).cursor := by
  have gap : cursor.LeadsTo (PlainGap.mk [] cursor false).cursor := refl cursor
  exact gap.readRuns inFlow indent _ []

/-! ## Block scalars -/

theorem readMarks {earlier later : Cursor} (leads : earlier.LeadsTo later) :
    earlier.LeadsTo (Yaml.readMarks later).2 := by
  unfold Yaml.readMarks
  split
  · simp only
    split
    · exact leads.advance.advance
    · exact leads.advance
  · simp only
    split
    · exact leads.advance.advance
    · exact leads.advance
  · exact leads

theorem skipIndent {earlier later : Cursor} (leads : earlier.LeadsTo later) (indent : Nat) :
    earlier.LeadsTo (Yaml.skipIndent indent later) :=
  leads.advanceBy _

theorem blockBreaks
    {earlier later : Cursor}
    (leads : earlier.LeadsTo later)
    (indent fuel : Nat) :
    earlier.LeadsTo (Yaml.blockBreaks indent fuel later).2 := by
  induction fuel generalizing later with
  | zero => exact leads
  | succ fuel inductionHypothesis =>
      rw [Yaml.blockBreaks]
      simp only
      split
      · exact leads.skipIndent indent
      · next char after ends => exact inductionHypothesis ((leads.skipIndent indent).lineBreak ends)

theorem leadingBreaks
    {earlier later : Cursor}
    (leads : earlier.LeadsTo later)
    (fuel deepest : Nat) :
    earlier.LeadsTo (Yaml.leadingBreaks fuel deepest later).2.2 := by
  induction fuel generalizing later deepest with
  | zero => exact leads
  | succ fuel inductionHypothesis =>
      rw [Yaml.leadingBreaks]
      split
      · exact inductionHypothesis leads.advance _
      · split
        · exact leads
        · next char after ends => exact inductionHypothesis (leads.lineBreak ends) _

theorem readLines
    {earlier later : Cursor}
    (leads : earlier.LeadsTo later)
    (style : BlockStyle)
    (indent fuel : Nat)
    (text : List Char) :
    earlier.LeadsTo (Yaml.readLines style indent fuel later text).2.2.2 := by
  induction fuel generalizing later text with
  | zero => exact leads
  | succ fuel inductionHypothesis =>
      rw [Yaml.readLines]
      have lineEnd := leads.span fun char => !isBreakOrEnd char
      cases ends : (later.span fun char => !isBreakOrEnd char).2.lineBreak? with
      | none =>
          have further := lineEnd.blockBreaks indent
          simp only [ends]
          split
          · exact inductionHypothesis (further _) _
          · exact further _
      | some found =>
          have further := (lineEnd.lineBreak ends).blockBreaks indent
          simp only [ends]
          split
          · exact inductionHypothesis (further _) _
          · exact further _

end LeadsTo

end Cursor

end PhoneAccounts.Yaml

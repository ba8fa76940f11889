import PhoneAccounts.Console.Markup

/-!
Contract: what is shown of a message whose own marks are the only ones.

A text without brackets and backslashes opens no mark and escapes none, so it stands for itself
wherever it is put between marks.

Owns: `IsUnmarked`, what such a text shows between marks, and `Screen.shown?`.

Does not own: the messages.
-/

namespace PhoneAccounts.Console

/-- Nothing in the text is part of a mark or escapes one. -/
def IsUnmarked (text : List Char) : Prop :=
  ∀ char ∈ text, char ≠ '[' ∧ char ≠ '\\'

instance (text : List Char) : Decidable (IsUnmarked text) :=
  inferInstanceAs (Decidable (∀ char ∈ text, char ≠ '[' ∧ char ≠ '\\'))

variable {text : List Char}

theorem IsUnmarked.append
    {more : List Char}
    (unmarked : IsUnmarked text)
    (moreUnmarked : IsUnmarked more) :
    IsUnmarked (text ++ more) :=
  fun char member => (List.mem_append.mp member).elim (unmarked char) (moreUnmarked char)

/-- A text without marks is shown in front of what is shown of the rest. -/
theorem textOfPieces?_piecesOf_append
    (unmarked : IsUnmarked text)
    (styles : List (List Char))
    (rest : List Char) :
    textOfPieces? styles (piecesOf 0 0 (text ++ rest)) =
      (textOfPieces? styles (piecesOf 0 0 rest)).map (text ++ ·) := by
  induction text with
  | nil => exact Option.map_id_apply.symm
  | cons char text inductionHypothesis =>
      obtain ⟨⟨noBracket, noSlash⟩, others⟩ := List.forall_mem_cons.mp unmarked
      rw [List.cons_append, piecesOf, if_neg noSlash, if_neg noBracket, textOfPieces?,
        inductionHypothesis others, Option.map_map]
      rfl

theorem textOfPieces?_opening (styles : List (List Char)) (rest : List Char) :
    textOfPieces? styles (piecesOf 0 0 ("[green]".toList ++ rest)) =
      textOfPieces? ("green".toList :: styles) (piecesOf 0 0 rest) := by
  show (textOfPieces? ("green".toList :: styles) (piecesOf 0 0 rest)).map ([] ++ ·) = _
  exact Option.map_id_apply

theorem textOfPieces?_closing
    (style : List Char)
    (styles : List (List Char))
    (rest : List Char) :
    textOfPieces? (style :: styles) (piecesOf 0 0 ("[/]".toList ++ rest)) =
      textOfPieces? styles (piecesOf 0 0 rest) := by
  show (textOfPieces? styles (piecesOf 0 0 rest)).map ([] ++ ·) = _
  exact Option.map_id_apply

theorem plainText?_of_marked (marked : '[' ∈ text) :
    plainText? text = textOfPieces? [] (piecesOf 0 0 text) :=
  if_pos (List.contains_iff_mem.mpr marked)

/-- A text in one style shows itself. -/
theorem plainText?_styled (unmarked : IsUnmarked text) :
    plainText? ("[green]".toList ++ (text ++ "[/]".toList)) = some text := by
  have closes : textOfPieces? ["green".toList] (piecesOf 0 0 "[/]".toList) = some [] := by decide
  rw [plainText?_of_marked (List.mem_append_left _ (by decide)), textOfPieces?_opening,
    textOfPieces?_piecesOf_append unmarked, closes, Option.map_some, List.append_nil]

/-- A text behind a mark of success shows itself. -/
theorem plainText?_checked (unmarked : IsUnmarked text) :
    plainText? ("  ".toList ++ ("[green]".toList ++ ("v".toList ++ ("[/]".toList ++ text)))) =
      some ("  v".toList ++ text) := by
  have alone := textOfPieces?_piecesOf_append unmarked [] []
  rw [List.append_nil] at alone
  rw [plainText?_of_marked (List.mem_append_right _ (List.mem_append_left _ (by decide))),
    textOfPieces?_piecesOf_append (by decide), textOfPieces?_opening,
    textOfPieces?_piecesOf_append (by decide), textOfPieces?_closing, alone]
  simp [textOfPieces?, piecesOf]

/-! ## Screens -/

/-- The text that a screen shows for a message; none if the message cannot be put into words, or its
marks cannot be read. -/
def Screen.shown? (screen : Screen) (message : Except DisplayFault (List Char)) :
    Option (List Char) :=
  message.toOption.bind screen.plain?

end PhoneAccounts.Console

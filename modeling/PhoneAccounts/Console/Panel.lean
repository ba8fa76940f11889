import PhoneAccounts.Console.Line

/-!
Contract: a text in a box with round corners and a title in its upper edge.

Owns: `panel`.

Does not own: the breaking of the text into lines (see `PhoneAccounts.Console.Line`).
-/

namespace PhoneAccounts.Console

/-- The title as one line with a blank at each side, cut to the width. -/
def titleLine (width : Nat) (title : List Char) : List Char :=
  let oneLine := (title.filter isShown).map fun char => if char = '\n' then ' ' else char
  (' ' :: expandTabs 0 oneLine ++ [' ']).take width

/-- The lines of a box of the width around a text. -/
def panel (width : Nat) (title text : List Char) : List (List Char) :=
  let inner := width - 4
  let top := ['╭', '─'] ++ surround '─' inner (titleLine inner title) ++ ['─', '╮']
  let body := (textLines inner text).map fun line =>
    ['│', ' '] ++ pad .left inner line ++ [' ', '│']
  let bottom := '╰' :: List.replicate (width - 2) '─' ++ ['╯']
  top :: body ++ [bottom]

end PhoneAccounts.Console

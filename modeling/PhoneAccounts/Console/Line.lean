import PhoneAccounts.Text.Blank

/-!
Contract: breaking text into lines of a given width.

A line takes words as long as they fit; blanks belong to the word before them and need
no room.  A word that is wider than a whole line is cut into pieces that fill a line each.

Owns: the width of a character, `words`, `wrap`, `textLines` and `pad`.

Does not own: the boxes that lines are drawn into (see `PhoneAccounts.Console.Panel` and
`PhoneAccounts.Console.Table`).
-/

namespace PhoneAccounts.Console

/-! ## Widths -/

/-- Columns that a character takes: none for a control character, one for any other. -/
def charWidth (char : Char) : Nat :=
  let code := char.toNat
  if code < 0x20 ∨ (0x7F ≤ code ∧ code ≤ 0x9F) then 0 else 1

def lineWidth : List Char → Nat
  | [] => 0
  | char :: rest => charWidth char + lineWidth rest

/-- Where a stretch ends whose width is measured. -/
def endsStretch (char : Char) : Bool :=
  let code := char.toNat
  code = 0x0A || (0x1C ≤ code && code ≤ 0x1E) || code = 0x85 || code = 0x2028 || code = 0x2029

/-- The stretches of a text between the characters of a kind. -/
def stretches (isEnd : Char → Bool) : List Char → List (List Char)
  | [] => [[]]
  | char :: rest =>
      if isEnd char then [] :: stretches isEnd rest
      else
        match stretches isEnd rest with
        | [] => [[char]]
        | stretch :: more => (char :: stretch) :: more

def textWidth (text : List Char) : Nat :=
  ((stretches endsStretch text).map lineWidth).foldl max 0

/-! ## Characters that are not shown as they are -/

/-- Characters that would move the cursor or ring the bell are left out. -/
def isShown (char : Char) : Bool :=
  !([0x07, 0x08, 0x0B, 0x0C, 0x0D] : List Nat).contains char.toNat

/-- Columns between the places that a tabulator moves to. -/
def tabWidth : Nat := 8

/-- Every tabulator replaced by the blanks up to its place; `column` is where the line goes
on. -/
def expandTabs (column : Nat) : List Char → List Char
  | [] => []
  | '\t' :: rest =>
      let blanks := tabWidth - column % tabWidth
      List.replicate blanks ' ' ++ expandTabs (column + blanks) rest
  | char :: rest => char :: expandTabs (column + charWidth char) rest

/-! ## Words and lines -/

def trimEnd (line : List Char) : List Char :=
  (line.reverse.dropWhile Text.isBlank).reverse

/-- The words of a line, each with the blanks behind it; the first one also has the blanks
in front of it. -/
def words : List Char → List (List Char)
  | [] => []
  | char :: rest =>
      match words rest with
      | [] => [[char]]
      | word :: more =>
          if Text.isBlank char || !(word.head?.any Text.isBlank) then (char :: word) :: more
          else
            let body := word.dropWhile Text.isBlank
            (char :: word.takeWhile Text.isBlank) ::
              if body = [] then more else body :: more

/-- Lines being filled: the finished ones and the one that takes the next word. -/
structure Filling where
  finished : List (List Char)
  current : List Char

/-- The filling with its current line finished, unless that is empty. -/
def Filling.break (filling : Filling) : Filling :=
  if filling.current = [] then filling else ⟨filling.finished ++ [filling.current], []⟩

/-- Adds a character of a word that is cut; it begins a new line when it does not fit. -/
def Filling.addPiece (width : Nat) (filling : Filling) (char : Char) : Filling :=
  if lineWidth filling.current + charWidth char ≤ width then
    { filling with current := filling.current ++ [char] }
  else ⟨filling.finished ++ [filling.current], [char]⟩

def Filling.addWord (width : Nat) (filling : Filling) (word : List Char) : Filling :=
  let needed := lineWidth (trimEnd word)
  if lineWidth filling.current + needed ≤ width then
    { filling with current := filling.current ++ word }
  else if width < needed then word.foldl (addPiece width) filling.break
  else { filling.break with current := word }

/-- The line without the blanks at its end that reach over the width. -/
def dropOverhang (width : Nat) (line : List Char) : List Char :=
  line.take (max width (trimEnd line).length)

/-- Breaks one line into lines of at most the width. -/
def wrap (width : Nat) (line : List Char) : List (List Char) :=
  let filling := (words line).foldl (Filling.addWord width) ⟨[], []⟩
  (filling.finished ++ [filling.current]).map (dropOverhang width)

def textLines (width : Nat) (text : List Char) : List (List Char) :=
  (stretches (· = '\n') (text.filter isShown)).flatMap fun line =>
    wrap width (expandTabs 0 line)

/-! ## Filling a width -/

/-- The side of its room at which a text stands. -/
inductive Side where
  | left
  | middle
  | right
deriving DecidableEq, Repr

/-- The text with a character at both sides, up to the width.  In the middle, an odd character
goes to the right. -/
def surround (fill : Char) (width : Nat) (line : List Char) : List Char :=
  let excess := width - lineWidth line
  List.replicate (excess / 2) fill ++ line ++ List.replicate (excess - excess / 2) fill

def pad (side : Side) (width : Nat) (line : List Char) : List Char :=
  let blanks (line : List Char) := List.replicate (width - lineWidth line) ' '
  match side with
  | .left => line ++ blanks line
  | .middle => surround ' ' width (trimEnd line)
  | .right => blanks (trimEnd line) ++ trimEnd line

end PhoneAccounts.Console

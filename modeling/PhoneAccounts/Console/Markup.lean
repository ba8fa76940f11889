import PhoneAccounts.Console.Line
import PhoneAccounts.Text.Numeral

/-!
Contract: texts with marks of style, and the screens that show them.

A mark is a word in brackets.  It opens the style that it names, or closes one: `[/]` the last
that was opened, `[/name]` the last of that name.  A backslash in front of a mark makes it an
ordinary text.  A mark that closes what is not open cannot be read.

Owns: `plainText?`, `Screen`, and why a message cannot be shown.

Does not own: the breaking of a text into lines (see `PhoneAccounts.Console.Line`).
-/

namespace PhoneAccounts.Console

/-! ## Marks -/

/-- A part of a text with marks: what is shown, or what opens or closes a style; without a name
the last one is closed. -/
inductive Piece where
  | shown (text : List Char)
  | opening (style : List Char)
  | closing (style : Option (List Char))
deriving DecidableEq, Repr

/-- What a mark begins with. -/
def startsMark (char : Char) : Bool :=
  ('a' ≤ char && char ≤ 'z') || char == '#' || char == '/' || char == '@'

/-- The inside of the mark whose bracket has been read; none if that bracket opens no mark. -/
def markAt? (chars : List Char) : Option (List Char) :=
  let inside := chars.takeWhile fun char => char != '[' && char != ']'
  if inside.head?.any startsMark && (chars.drop inside.length).head? = some ']' then some inside
  else none

/-- The name of a style, as names are compared. -/
def styleName (name : List Char) : List Char :=
  (Text.trimBlank name).map Char.toLower

/-- What a mark does.  Nothing behind an equals sign belongs to its name. -/
def Piece.ofMark (inside : List Char) : Piece :=
  match inside.takeWhile (· != '=') with
  | '/' :: name => .closing (if styleName name = [] then none else some (styleName name))
  | name => .opening (styleName name)

/-- What becomes of a mark behind some backslashes.  Two of them show one; one that is left over
shows the mark itself. -/
def markPieces (slashes : Nat) (inside : List Char) : List Piece :=
  [.shown (List.replicate (slashes / 2) '\\'),
    if slashes % 2 = 1 then .shown ('[' :: inside ++ [']']) else .ofMark inside]

/-- The parts of a text: `skipped` more characters belong to a mark that has been read, and
`slashes` backslashes have yet to be shown.  A bracket that opens no mark takes one of them. -/
def piecesOf : (skipped slashes : Nat) → List Char → List Piece
  | _, slashes, [] => [.shown (List.replicate slashes '\\')]
  | skipped + 1, slashes, _ :: rest => piecesOf skipped slashes rest
  | 0, slashes, char :: rest =>
      if char = '\\' then piecesOf 0 (slashes + 1) rest
      else if char = '[' then
        match markAt? rest with
        | some inside => markPieces slashes inside ++ piecesOf (inside.length + 1) 0 rest
        | none => .shown (List.replicate (slashes - 1) '\\' ++ ['[']) :: piecesOf 0 0 rest
      else .shown (List.replicate slashes '\\' ++ [char]) :: piecesOf 0 0 rest

/-- The text that some pieces show when some styles are open, the last one first; none if
something is closed that is not open. -/
def textOfPieces? : (styles : List (List Char)) → List Piece → Option (List Char)
  | _, [] => some []
  | styles, .shown text :: rest => (textOfPieces? styles rest).map (text ++ ·)
  | styles, .opening style :: rest => textOfPieces? (style :: styles) rest
  | [], .closing none :: _ => none
  | _ :: styles, .closing none :: rest => textOfPieces? styles rest
  | styles, .closing (some style) :: rest =>
      if styles.contains style then textOfPieces? (styles.erase style) rest else none

/-- The text that a text with marks shows; none if its marks cannot be read. -/
def plainText? (text : List Char) : Option (List Char) :=
  if text.contains '[' then textOfPieces? [] (piecesOf 0 0 text) else some text

example : plainText? "[red]none:[/] a/b".toList = some "none: a/b".toList := by decide

example : plainText? "[red]none:[/] a[/b]".toList = none := by decide

example : plainText? "\\[a] \\\\[b]c[/ B ] [1]".toList = some "[a] \\c [1]".toList := by decide

/-! ## Screens -/

/-- Why a message cannot be shown: an integer in it cannot be written, or its marks cannot be
read. -/
inductive DisplayFault where
  | longInteger
  | unreadableMarks
deriving DecidableEq, Repr

/-- What shows messages: its width in columns, and the text that a text with marks shows on it,
if its marks can be read. -/
structure Screen where
  width : Nat
  plain? : List Char → Option (List Char)

namespace Screen

def ofWidth (width : Nat) : Screen := ⟨width, plainText?⟩

def plain (screen : Screen) (text : List Char) : Except DisplayFault (List Char) :=
  match screen.plain? text with
  | some plain => .ok plain
  | none => .error .unreadableMarks

/-- The lines that a message takes up. -/
def lines (screen : Screen) (text : List Char) : Except DisplayFault (List (List Char)) :=
  (screen.plain text).map (textLines screen.width)

end Screen

/-- An integer inside a message. -/
def integerInMessage (value : Int) : Except DisplayFault (List Char) :=
  if Text.isWritable value then .ok (Text.integerText value) else .error .longInteger

end PhoneAccounts.Console

import PhoneAccounts.Yaml.Charset

/-!
Contract: a place in a text, with its line and column.

Owns: `Cursor`, moving forward, and looking ahead.

Does not own: what is read at a place (see `PhoneAccounts.Yaml.Token`).
-/

namespace PhoneAccounts.Yaml

/-- What is left of a text, and how many characters, lines and columns lie before it.  The
byte-order mark takes no column. -/
structure Cursor where
  rest : List Char
  index : Nat
  line : Nat
  column : Nat
deriving DecidableEq, Repr

namespace Cursor

/-- The place before the first character. -/
def start (chars : List Char) : Cursor := ⟨chars, 0, 0, 0⟩

def next (cursor : Cursor) : Char :=
  cursor.rest.headD endMark

/-- The character a number of places ahead, or the mark of the end. -/
def ahead (cursor : Cursor) (distance : Nat) : Char :=
  (cursor.rest.drop distance).headD endMark

def continuesWith (cursor : Cursor) (chars : List Char) : Bool :=
  chars.isPrefixOf cursor.rest

/-- One character on.  A carriage return before a line feed does not end the line. -/
def advance (cursor : Cursor) : Cursor :=
  match cursor.rest with
  | [] => cursor
  | char :: rest =>
      if isBreak char && !(char == '\r' && rest.head? == some '\n') then
        ⟨rest, cursor.index + 1, cursor.line + 1, 0⟩
      else if char == byteOrderMark then ⟨rest, cursor.index + 1, cursor.line, cursor.column⟩
      else ⟨rest, cursor.index + 1, cursor.line, cursor.column + 1⟩

def advanceBy : Nat → Cursor → Cursor
  | 0, cursor => cursor
  | count + 1, cursor => advanceBy count cursor.advance

/-- The characters that pass a test, up to the first that does not, and the place after
them. -/
def span (test : Char → Bool) (cursor : Cursor) : List Char × Cursor :=
  let run := cursor.rest.takeWhile test
  (run, advanceBy run.length cursor)

/-- The place after the characters that pass a test. -/
def skip (test : Char → Bool) (cursor : Cursor) : Cursor :=
  (cursor.span test).2

/-- The line break at this place in its normal form, and the place after it.  All breaks
but the two Unicode separators become a line feed. -/
def lineBreak? (cursor : Cursor) : Option (Char × Cursor) :=
  if cursor.next == '\u2028' || cursor.next == '\u2029' then
    some (cursor.next, cursor.advance)
  else if isBreak cursor.next then
    if cursor.continuesWith ['\r', '\n'] then some ('\n', advanceBy 2 cursor)
    else some ('\n', cursor.advance)
  else none

/-- The place after a line break, if there is one. -/
def pastBreak (cursor : Cursor) : Cursor :=
  match cursor.lineBreak? with
  | some (_, cursor) => cursor
  | none => cursor

/-- Three dashes or three dots at this place, and a blank after them. -/
def isDocumentMark (mark : Char) (cursor : Cursor) : Bool :=
  cursor.continuesWith [mark, mark, mark] && isBlankOrEnd (cursor.ahead 3)

/-- The mark that begins or ends a document at this place. -/
def isAtDocumentMark (cursor : Cursor) : Bool :=
  cursor.isDocumentMark '-' || cursor.isDocumentMark '.'

end Cursor

end PhoneAccounts.Yaml

import PhoneAccounts.Text.Quoted
import PhoneAccounts.Yaml.Token.Mark
import PhoneAccounts.Yaml.Token.PlainScalar

/-!
Contract: quoted scalars.

Between apostrophes only the apostrophe itself is special: it is written twice.  Between
double quotes a backslash begins an escape.  In both, a line break becomes a space and
the blanks around it are dropped.

Owns: `QuoteStyle`, the escapes, and `readQuoted`.

Does not own: where a quoted scalar can begin (see `PhoneAccounts.Yaml.Token.Lexer`).
-/

namespace PhoneAccounts.Yaml

open PhoneAccounts.Text

/-- The two kinds of quotes. -/
inductive QuoteStyle where
  | single
  | double
deriving DecidableEq, Repr

/-- The character that begins and ends the scalar. -/
def QuoteStyle.mark : QuoteStyle → Char
  | .single => apostrophe
  | .double => doubleQuote

def shortEscape? (letter : Char) : Option Char :=
  match letter with
  | '0' => some '\x00'
  | 'a' => some '\x07'
  | 'b' => some '\x08'
  | 't' => some '\t'
  | '\t' => some '\t'
  | 'n' => some '\n'
  | 'v' => some '\x0B'
  | 'f' => some '\x0C'
  | 'r' => some '\r'
  | 'e' => some '\x1B'
  | ' ' => some ' '
  | '\x22' => some '\x22'
  | '\x5C' => some '\x5C'
  | '/' => some '/'
  | 'N' => some '\x85'
  | '_' => some '\xA0'
  | 'L' => some '\u2028'
  | 'P' => some '\u2029'
  | _ => none

/-- How many hexadecimal digits follow the letter of a numeric escape. -/
def escapeWidth? (letter : Char) : Option Nat :=
  match letter with
  | 'x' => some 2
  | 'u' => some 4
  | 'U' => some 8
  | _ => none

/-- Stands for a code point that is half of a pair. -/
def replacement : Char := '\uFFFD'

def charOfCode (code : Nat) : Except Fault Char :=
  if code.isValidChar then .ok (Char.ofNat code)
  else if code < 0x110000 then .ok replacement
  else .error .impossibleValue

/-- The line breaks at a place with the blanks around them; a document mark at the front of
a line is a fault. -/
def quotedBreaks : (fuel : Nat) → Cursor → Except Fault (List Char × Cursor)
  | 0, _ => .error .unparseable
  | fuel + 1, cursor =>
      if cursor.isAtDocumentMark then .error .unparseable
      else
        let cursor := cursor.skip fun char => char == ' ' || char == '\t'
        match cursor.lineBreak? with
        | none => .ok ([], cursor)
        | some (char, cursor) => do
            let (more, cursor) ← quotedBreaks fuel cursor
            .ok (char :: more, cursor)

/-- The blanks and line breaks at a place, as they count in the scalar. -/
def readQuotedGap (cursor : Cursor) : Except Fault (List Char × Cursor) :=
  let (blanks, cursor) := cursor.span fun char => char == ' ' || char == '\t'
  if cursor.next == endMark then .error .unparseable
  else
    match cursor.lineBreak? with
    | none => .ok (blanks, cursor)
    | some (first, cursor) => do
        let (more, cursor) ← quotedBreaks (cursor.rest.length + 1) cursor
        .ok (foldBreaks first more, cursor)

/-- What an escape stands for; the place is that of its letter. -/
def readEscape (cursor : Cursor) : Except Fault (List Char × Cursor) :=
  let letter := cursor.next
  match shortEscape? letter, escapeWidth? letter with
  | some char, _ => .ok ([char], cursor.advance)
  | none, some width =>
      let digits := cursor.advance.rest.take width
      match if digits.length = width then hexNumber? digits else none with
      | none => .error .unparseable
      | some code => do
          let char ← charOfCode code
          .ok ([char], cursor.advance.advanceBy width)
  | none, none =>
      match cursor.lineBreak? with
      | none => .error .unparseable
      | some (_, cursor) => quotedBreaks (cursor.rest.length + 1) cursor

/-- The character stands for itself in every quoted scalar. -/
def isQuotedPlain (char : Char) : Bool :=
  !(isBlankOrEnd char || char == apostrophe || char == doubleQuote || char == backslash)

/-- The scalar from a place behind its first quote on.  `fuel` bounds the stretches. -/
def readQuotedRuns (style : QuoteStyle) :
    (fuel : Nat) → Cursor → (text : List Char) → Except Fault (List Char × Cursor)
  | 0, _, _ => .error .unparseable
  | fuel + 1, cursor, text =>
      let (run, cursor) := cursor.span isQuotedPlain
      let text := text ++ run
      let char := cursor.next
      if style == .single && char == apostrophe && cursor.ahead 1 == apostrophe then
        readQuotedRuns style fuel (cursor.advanceBy 2) (text ++ [apostrophe])
      else if char == style.mark then .ok (text, cursor.advance)
      else if style == .double && char == backslash then do
        let (escaped, cursor) ← readEscape cursor.advance
        readQuotedRuns style fuel cursor (text ++ escaped)
      else if char == apostrophe || char == doubleQuote || char == backslash then
        readQuotedRuns style fuel cursor.advance (text ++ [char])
      else do
        let (gap, cursor) ← readQuotedGap cursor
        readQuotedRuns style fuel cursor (text ++ gap)

def readQuoted (style : QuoteStyle) (cursor : Cursor) : Except Fault (List Char × Cursor) :=
  readQuotedRuns style (cursor.rest.length + 1) cursor.advance []

end PhoneAccounts.Yaml

import PhoneAccounts.Text.Quoted
import PhoneAccounts.Yaml.Charset
import PhoneAccounts.Yaml.Tag

/-!
Contract: in which style a text is written.

A text is plain if nothing in it could be read otherwise.  Apostrophes are next; they take
everything but control characters and blanks around line breaks, and double quotes take
the rest.

Owns: `TextStyle` and `TextStyle.of`.

Does not own: the written form of each style (see `PhoneAccounts.Yaml.Layout.Scalar`).
-/

namespace PhoneAccounts.Yaml

open PhoneAccounts.Text

/-- How a text is written. -/
inductive TextStyle where
  | plain
  | singleQuoted
  | doubleQuoted
deriving DecidableEq, Repr

namespace TextStyle

/-- A line break that counts when a text is written; the carriage return is not one. -/
def isWrittenBreak (char : Char) : Bool :=
  char == '\n' || char == '\x85' || char == '\u2028' || char == '\u2029'

/-- The character can be written outside double quotes. -/
def isWritable (char : Char) : Bool :=
  let code := char.toNat
  char == '\n' || (0x20 ≤ code && code ≤ 0x7E) ||
    (char != byteOrderMark &&
      (code == 0x85 || (0xA0 ≤ code && code ≤ 0xD7FF) || (0xE000 ≤ code && code ≤ 0xFFFD) ||
        (0x10000 ≤ code && code < 0x10FFFF)))

def openingMarks : List Char :=
  ['#', ',', '[', ']', '\x7b', '\x7d', '&', '*', '!', '|', '>', '\x27', '\x22', '%', '@', '\x60']

/-- The front of a text would be read as a mark. -/
def beginsWithMark : List Char → Bool
  | [] => false
  | first :: rest =>
      openingMarks.contains first ||
        ((first == '?' || first == ':' || first == '-') && isBlankOrEnd (rest.headD endMark)) ||
        ['-', '-', '-'].isPrefixOf (first :: rest) || ['.', '.', '.'].isPrefixOf (first :: rest)

/-- A character behind the first would be read as a mark: a colon before a blank, or the
mark of a comment after one. -/
def holdsMark : List Char → Bool
  | char :: next :: rest =>
      (next == ':' && isBlankOrEnd (rest.headD endMark)) ||
        (next == '#' && isBlankOrEnd char) ||
        holdsMark (next :: rest)
  | _ => false

/-- A blank or a line break stands at one of the ends. -/
def hasOpenEnd (chars : List Char) : Bool :=
  let isOpen (char : Char) : Bool := char == ' ' || isWrittenBreak char
  (chars.head?.map isOpen).getD false || (chars.getLast?.map isOpen).getD false

/-- A space and a line break stand side by side. -/
def hasSpaceAtBreak : List Char → Bool
  | char :: next :: rest =>
      (char == ' ' && isWrittenBreak next) || (isWrittenBreak char && next == ' ') ||
        hasSpaceAtBreak (next :: rest)
  | _ => false

/-- Apostrophes are enough. -/
def allowsSingleQuotes (chars : List Char) : Bool :=
  chars.all isWritable && !hasSpaceAtBreak chars

/-- Nothing in the text could be read otherwise, if it is not empty. -/
def allowsPlain (chars : List Char) : Bool :=
  allowsSingleQuotes chars && !chars.any isWrittenBreak && !hasOpenEnd chars &&
    !beginsWithMark chars && !holdsMark chars

/-- The style of a text: plain only if it would not be taken for another kind of value. -/
def of (chars : List Char) : TextStyle :=
  if allowsPlain chars && Tag.ofPlain chars == .text then .plain
  else if allowsSingleQuotes chars then .singleQuoted
  else .doubleQuoted

example : of "com.example/.Service".toList = .plain := by decide +kernel

example : of "12".toList = .singleQuoted := by decide +kernel

example : of [] = .singleQuoted := by decide +kernel

example : of ['a', '\t'] = .doubleQuoted := by decide +kernel

end TextStyle

end PhoneAccounts.Yaml

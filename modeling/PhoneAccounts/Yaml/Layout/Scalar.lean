import PhoneAccounts.Text.Numeral
import PhoneAccounts.Yaml.Layout.Style

/-!
Contract: the written form of a text in each style.

A line that has grown past eighty columns is broken at the next single space, or, between
double quotes, anywhere behind a backslash.  The lines after it begin at the indentation.

Owns: `scalarText`.

Does not own: the lines around a text (see `PhoneAccounts.Yaml.Layout.Outline`).
-/

namespace PhoneAccounts.Yaml

open PhoneAccounts.Text

/-- Column behind which a line is broken. -/
def bestWidth : Nat := 80

def newLine (indent : Nat) : List Char :=
  '\n' :: List.replicate indent ' '

/-- What the characters of a run have in common. -/
inductive RunKind where
  | spaces
  | breaks
  | word
deriving DecidableEq, Repr

/-- The kind of run that a character belongs to. -/
def RunKind.of (char : Char) : RunKind :=
  if char = ' ' then .spaces
  else if TextStyle.isWrittenBreak char then .breaks
  else .word

def runsOf : List Char → List (RunKind × List Char)
  | [] => []
  | char :: rest =>
      match runsOf rest with
      | [] => [(.of char, [char])]
      | (kind, run) :: runs =>
          if kind = .of char then (kind, char :: run) :: runs
          else (.of char, [char]) :: (kind, run) :: runs

/-- A plain text from a column on. -/
def plainRuns (indent : Nat) : (column : Nat) → List (RunKind × List Char) → List Char
  | _, [] => []
  | column, (.spaces, run) :: rest =>
      if run.length = 1 ∧ bestWidth < column then
        newLine indent ++ plainRuns indent indent rest
      else run ++ plainRuns indent (column + run.length) rest
  | column, (_, run) :: rest => run ++ plainRuns indent (column + run.length) rest

/-- A word between apostrophes: each apostrophe in it is doubled. -/
def doubleApostrophes (word : List Char) : List Char :=
  word.flatMap fun char => if char = apostrophe then [apostrophe, apostrophe] else [char]

/-- Line breaks between apostrophes: a line feed at the front is doubled, since a single
one would be read as a space. -/
def doubleFirstFeed (run : List Char) : List Char :=
  if run.head? = some '\n' then '\n' :: run else run

/-- The inside of a text between apostrophes, from a column on.  A space at either end of
the text is never where a line is broken. -/
def singleQuotedRuns (indent : Nat) :
    (column : Nat) → (isFirst : Bool) → List (RunKind × List Char) → List Char
  | _, _, [] => []
  | column, isFirst, (.spaces, run) :: rest =>
      if run.length = 1 ∧ bestWidth < column ∧ !isFirst ∧ !rest.isEmpty then
        newLine indent ++ singleQuotedRuns indent indent false rest
      else run ++ singleQuotedRuns indent (column + run.length) false rest
  | _, _, (.breaks, run) :: rest =>
      doubleFirstFeed run ++ List.replicate indent ' ' ++
        singleQuotedRuns indent indent false rest
  | column, _, (.word, run) :: rest =>
      let word := doubleApostrophes run
      word ++ singleQuotedRuns indent (column + word.length) false rest

def escapeLetter? (char : Char) : Option Char :=
  match char with
  | '\x00' => some '0'
  | '\x07' => some 'a'
  | '\x08' => some 'b'
  | '\t' => some 't'
  | '\n' => some 'n'
  | '\x0B' => some 'v'
  | '\x0C' => some 'f'
  | '\r' => some 'r'
  | '\x1B' => some 'e'
  | '\x22' => some '\x22'
  | '\x5C' => some '\x5C'
  | '\x85' => some 'N'
  | '\xA0' => some '_'
  | '\u2028' => some 'L'
  | '\u2029' => some 'P'
  | _ => none

/-- The escape of a character: its letter, or its number with the fewest digits allowed. -/
def escapeText (char : Char) : List Char :=
  let code := char.toNat
  match escapeLetter? char with
  | some letter => [backslash, letter]
  | none =>
      if code ≤ 0xFF then backslash :: 'x' :: LetterCase.upper.hexText 2 code
      else if code ≤ 0xFFFF then backslash :: 'u' :: LetterCase.upper.hexText 4 code
      else backslash :: 'U' :: LetterCase.upper.hexText 8 code

/-- The character stands for itself between double quotes. -/
def isDirect (char : Char) : Bool :=
  let code := char.toNat
  ((0x20 ≤ code && code ≤ 0x7E) || (0xA0 ≤ code && code ≤ 0xD7FF) ||
      (0xE000 ≤ code && code ≤ 0xFFFD)) &&
    !(char == doubleQuote || char == backslash || char == '\u2028' || char == '\u2029' ||
      char == byteOrderMark)

/-- A broken line between double quotes, before the next character: a space at the front of
a line needs a backslash of its own. -/
def brokenLine (indent : Nat) (next : Char) : List Char :=
  backslash :: newLine indent ++ if next = ' ' then [backslash] else []

/-- Column after a broken line. -/
def brokenColumn (indent : Nat) (next : Char) : Nat :=
  if next = ' ' then indent + 1 else indent

/-- The inside of a text between double quotes.  `column` is where the characters that were
written as escapes or broken off end, and `run` counts those written directly since then.
A line can be broken before a space and before or behind an escape, but not at the first
character and not before the last. -/
def doubleQuotedRuns (indent : Nat) :
    (column run : Nat) → (isFirst : Bool) → List Char → List Char
  | _, _, _, [] => []
  | column, run, isFirst, char :: rest =>
      let mayBreak := !isFirst && !rest.isEmpty
      if isDirect char then
        if mayBreak && (char == ' ' || run == 0) && bestWidth < column + run then
          brokenLine indent char ++
            char :: doubleQuotedRuns indent (brokenColumn indent char) 1 false rest
        else char :: doubleQuotedRuns indent column (run + 1) false rest
      else
        let escape := escapeText char
        let column := column + run + escape.length
        if mayBreak && bestWidth + 1 < column then
          let next := rest.headD endMark
          escape ++ brokenLine indent next ++
            doubleQuotedRuns indent (brokenColumn indent next) 0 false rest
        else escape ++ doubleQuotedRuns indent column 0 false rest

/-- A text that begins at a column; later lines begin at the indentation. -/
def scalarText (indent column : Nat) (chars : List Char) : List Char :=
  match TextStyle.of chars with
  | .plain => plainRuns indent column (runsOf chars)
  | .singleQuoted =>
      apostrophe :: singleQuotedRuns indent (column + 1) true (runsOf chars) ++ [apostrophe]
  | .doubleQuoted =>
      doubleQuote :: doubleQuotedRuns indent (column + 1) 0 true chars ++ [doubleQuote]

end PhoneAccounts.Yaml

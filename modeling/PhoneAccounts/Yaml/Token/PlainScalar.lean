import PhoneAccounts.Yaml.Cursor

/-!
Contract: plain scalars, the texts without quotes.

A plain scalar goes on until a mark ends it.  It may run over several lines as long as
they are indented deeper than the block around it; a line break inside becomes a space,
and each empty line a line feed.

Owns: `PlainScalar` and `readPlain`.

Does not own: where a plain scalar can begin (see `PhoneAccounts.Yaml.Token.Lexer`).
-/

namespace PhoneAccounts.Yaml

/-- Marks that end a plain scalar inside a flow collection. -/
def flowMarks : List Char := [',', '?', '[', ']', '\x7b', '\x7d']

/-- Marks that, inside a flow collection, make a colon before them end a plain scalar. -/
def colonMarks : List Char := [',', '[', ']', '\x7b', '\x7d']

/-- The character ends a plain scalar, given the one after it. -/
def endsPlain (inFlow : Bool) (char next : Char) : Bool :=
  isBlankOrEnd char ||
    (char == ':' && (isBlankOrEnd next || (inFlow && colonMarks.contains next))) ||
    (inFlow && flowMarks.contains char)

/-- The characters of a plain scalar up to a blank or a mark. -/
def plainRun (inFlow : Bool) : List Char → List Char
  | [] => []
  | char :: rest =>
      if endsPlain inFlow char (rest.headD endMark) then []
      else char :: plainRun inFlow rest

/-- The line breaks after a first one, with the spaces around them; nothing when a document
mark stands at the front of a line. -/
def plainBreaks : (fuel : Nat) → Cursor → Option (List Char) × Cursor
  | 0, cursor => (some [], cursor)
  | fuel + 1, cursor =>
      if cursor.next == ' ' then plainBreaks fuel cursor.advance
      else
        match cursor.lineBreak? with
        | none => (some [], cursor)
        | some (char, cursor) =>
            if cursor.isAtDocumentMark then (none, cursor)
            else
              let (breaks, cursor) := plainBreaks fuel cursor
              (breaks.map (char :: ·), cursor)

/-- What a line break and the breaks after it mean inside a scalar: a single line feed is a
space, the first of several is dropped, and a separator stays. -/
def foldBreaks (first : Char) (more : List Char) : List Char :=
  if first != '\n' then first :: more
  else if more.isEmpty then [' ']
  else more

/-- What separates two runs of a plain scalar. -/
structure PlainGap where
  text : List Char
  cursor : Cursor
  crossesLine : Bool

/-- The gap at a place; its text is empty when the scalar cannot go on. -/
def readPlainGap (cursor : Cursor) : PlainGap :=
  let (spaces, cursor) := cursor.span (· == ' ')
  match cursor.lineBreak? with
  | none => ⟨spaces, cursor, false⟩
  | some (first, cursor) =>
      if cursor.isAtDocumentMark then ⟨[], cursor, true⟩
      else
        match plainBreaks (cursor.rest.length + 1) cursor with
        | (none, cursor) => ⟨[], cursor, true⟩
        | (some more, cursor) => ⟨foldBreaks first more, cursor, true⟩

/-- A plain scalar, the place after it, and whether the last gap crossed a line. -/
structure PlainScalar where
  text : List Char
  cursor : Cursor
  crossesLine : Bool

/-- The scalar from a run on.  `pending` is the gap before the run; it belongs to the
scalar only if the run is not empty.  `fuel` bounds the runs. -/
def readRuns (inFlow : Bool) (indent : Int) :
    (fuel : Nat) → (pending : PlainGap) → (text : List Char) → PlainScalar
  | 0, pending, text => ⟨text, pending.cursor, pending.crossesLine⟩
  | fuel + 1, pending, text =>
      let run := plainRun inFlow pending.cursor.rest
      if pending.cursor.next == '#' || run.isEmpty then
        ⟨text, pending.cursor, pending.crossesLine⟩
      else
        let text := text ++ pending.text ++ run
        let gap := readPlainGap (pending.cursor.advanceBy run.length)
        if gap.text.isEmpty || gap.cursor.next == '#' ||
            (!inFlow && decide ((gap.cursor.column : Int) < indent)) then
          ⟨text, gap.cursor, gap.crossesLine⟩
        else readRuns inFlow indent fuel gap text

/-- The plain scalar at a place.  Outside flow collections its later lines have at least
`indent` columns in front. -/
def readPlain (inFlow : Bool) (indent : Int) (cursor : Cursor) : PlainScalar :=
  readRuns inFlow indent (cursor.rest.length + 1) ⟨[], cursor, false⟩ []

end PhoneAccounts.Yaml

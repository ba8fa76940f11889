import PhoneAccounts.Yaml.Token.Mark

/-!
Contract: block scalars, the texts that are marked off by their indentation.

A literal scalar keeps its line breaks.  In a folded one a single break between two lines
that begin with no blank becomes a space.  The breaks at the end are kept, cut to one, or
dropped, as the header says.

Owns: `BlockStyle`, `Chomping`, and `readBlock`.

Does not own: where a block scalar can begin (see `PhoneAccounts.Yaml.Token.Lexer`).
-/

namespace PhoneAccounts.Yaml

/-- What becomes of single line breaks inside the scalar. -/
inductive BlockStyle where
  | literal
  | folded
deriving DecidableEq, Repr

/-- What becomes of the line breaks at the end. -/
inductive Chomping where
  | strip
  | clip
  | keep
deriving DecidableEq, Repr

/-- The first line of a block scalar: chomping, and the indentation if it is given. -/
structure BlockHeader where
  chomping : Chomping
  indentation : Option Nat
deriving DecidableEq, Repr

/-- The chomping that a mark asks for. -/
def chompingMark? (char : Char) : Option Chomping :=
  if char == '+' then some .keep else if char == '-' then some .strip else none

def indentationMark? (char : Char) : Option Nat :=
  if isDigit char then some (char.toNat - '0'.toNat) else none

def readMarks (cursor : Cursor) : BlockHeader × Cursor :=
  match chompingMark? cursor.next, indentationMark? cursor.next with
  | some chomping, _ =>
      let cursor := cursor.advance
      match indentationMark? cursor.next with
      | some count => (⟨chomping, some count⟩, cursor.advance)
      | none => (⟨chomping, none⟩, cursor)
  | none, some count =>
      let cursor := cursor.advance
      match chompingMark? cursor.next with
      | some chomping => (⟨chomping, some count⟩, cursor.advance)
      | none => (⟨.clip, some count⟩, cursor)
  | none, none => (⟨.clip, none⟩, cursor)

/-- The header behind the mark of the style, with the rest of its line. -/
def readHeader (cursor : Cursor) : Except Fault (BlockHeader × Cursor) :=
  let (header, cursor) := readMarks cursor
  if header.indentation = some 0 || !isSpaceOrEnd cursor.next then .error .unparseable
  else do
    let cursor ← skipLineEnd cursor
    .ok (header, cursor)

def skipIndent (indent : Nat) (cursor : Cursor) : Cursor :=
  let spaces := (cursor.rest.take (indent - cursor.column)).takeWhile (· == ' ')
  cursor.advanceBy spaces.length

/-- The empty lines at a place, and the place behind the indentation of the line after
them.  `fuel` bounds the lines. -/
def blockBreaks (indent : Nat) : (fuel : Nat) → Cursor → List Char × Cursor
  | 0, cursor => ([], cursor)
  | fuel + 1, cursor =>
      let cursor := skipIndent indent cursor
      match cursor.lineBreak? with
      | none => ([], cursor)
      | some (char, cursor) =>
          let (more, cursor) := blockBreaks indent fuel cursor
          (char :: more, cursor)

/-- The empty lines at the front of a scalar, and the deepest column that spaces reach in
them and in the line after them.  `fuel` bounds the characters. -/
def leadingBreaks : (fuel : Nat) → (deepest : Nat) → Cursor → List Char × Nat × Cursor
  | 0, deepest, cursor => ([], deepest, cursor)
  | fuel + 1, deepest, cursor =>
      if cursor.next == ' ' then
        let cursor := cursor.advance
        leadingBreaks fuel (max deepest cursor.column) cursor
      else
        match cursor.lineBreak? with
        | none => ([], deepest, cursor)
        | some (char, cursor) =>
            let (more, deepest, cursor) := leadingBreaks fuel deepest cursor
            (char :: more, deepest, cursor)

def isBlankMark (char : Char) : Bool := char == ' ' || char == '\t'

/-- What two lines of the scalar have between them: `first` ends the upper line, and `more`
are the empty lines after it. -/
def lineGap
    (style : BlockStyle)
    (upperIsBlank lowerIsBlank : Bool)
    (first : List Char)
    (more : List Char) :
    List Char :=
  if style == .folded && first == ['\n'] && !upperIsBlank && !lowerIsBlank then
    if more.isEmpty then [' '] else more
  else first ++ more

/-- The lines of the scalar and the breaks at its end: the one of the last line and the
empty lines after it.  `fuel` bounds the lines. -/
def readLines (style : BlockStyle) (indent : Nat) :
    (fuel : Nat) → Cursor → (text : List Char) →
      List Char × List Char × List Char × Cursor
  | 0, cursor, text => (text, [], [], cursor)
  | fuel + 1, cursor, text =>
      let upperIsBlank := isBlankMark cursor.next
      let (line, cursor) := cursor.span fun char => !isBreakOrEnd char
      let text := text ++ line
      let (first, cursor) := match cursor.lineBreak? with
        | none => ([], cursor)
        | some (char, cursor) => ([char], cursor)
      let (more, cursor) := blockBreaks indent (cursor.rest.length + 1) cursor
      if cursor.column == indent && cursor.next != endMark then
        let gap := lineGap style upperIsBlank (isBlankMark cursor.next) first more
        readLines style indent fuel cursor (text ++ gap)
      else (text, first, more, cursor)

def Chomping.apply (chomping : Chomping) (first more : List Char) : List Char :=
  match chomping with
  | .strip => []
  | .clip => first
  | .keep => first ++ more

/-- The block scalar at a place, inside a block whose own indentation is `outer`. -/
def readBlock
    (style : BlockStyle)
    (outer : Int)
    (cursor : Cursor) :
    Except Fault (List Char × Cursor) := do
  let (header, cursor) ← readHeader cursor.advance
  let least := (max 1 (outer + 1)).toNat
  let (breaks, indent, cursor) := match header.indentation with
    | none =>
        let (breaks, deepest, cursor) := leadingBreaks (cursor.rest.length + 1) 0 cursor
        (breaks, max least deepest, cursor)
    | some count =>
        let indent := least + count - 1
        let (breaks, cursor) := blockBreaks indent (cursor.rest.length + 1) cursor
        (breaks, indent, cursor)
  if cursor.column == indent && cursor.next != endMark then
    let (text, first, more, cursor) :=
      readLines style indent (cursor.rest.length + 1) cursor breaks
    .ok (text ++ header.chomping.apply first more, cursor)
  else .ok (header.chomping.apply [] breaks, cursor)

end PhoneAccounts.Yaml

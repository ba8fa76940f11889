import PhoneAccounts.Yaml.Token.BlockScalar
import PhoneAccounts.Yaml.Token.QuotedScalar

/-!
Contract: the tokens of a text.

Whether a scalar is a key shows only at the colon after it.  So the place of each token
that may begin a key is remembered until the colon comes or the line ends; the key token,
and the start of a block mapping if one begins there, are then put in at that place.

Owns: `Token.scan?`.

Does not own: what the tokens mean together (see `PhoneAccounts.Yaml.Node`).
-/

namespace PhoneAccounts.Yaml

/-- A token that may turn out to begin a key: how many tokens come before it, whether it has
to be a key, and where it stands. -/
structure PossibleKey where
  tokensBefore : Nat
  isRequired : Bool
  index : Nat
  line : Nat
  column : Nat
deriving DecidableEq, Repr

/-- A text that is being cut into tokens.  `produced` holds the tokens so far, last one
first; `candidate` is the possible key of the innermost collection, and `outerCandidates`
holds one entry for each flow collection around it. -/
structure Lexer where
  cursor : Cursor
  produced : List Token
  indent : Int
  outerIndents : List Int
  keyAllowed : Bool
  candidate : Option PossibleKey
  outerCandidates : List (Option PossibleKey)

namespace Lexer

/-- The lexer before the first token. -/
def start (chars : List Char) : Lexer :=
  ⟨Cursor.start chars, [], -1, [], true, none, []⟩

/-- The place lies inside a flow collection. -/
def inFlow (lexer : Lexer) : Bool :=
  !lexer.outerCandidates.isEmpty

def emit (lexer : Lexer) (token : Token) : Lexer :=
  { lexer with produced := token :: lexer.produced }

/-- Puts tokens in behind the first `count` ones. -/
def insertAfter (lexer : Lexer) (count : Nat) (tokens : List Token) : Lexer :=
  let late := lexer.produced.length - count
  { lexer with
    produced := lexer.produced.take late ++ tokens.reverse ++ lexer.produced.drop late }

def moveTo (lexer : Lexer) (cursor : Cursor) : Lexer :=
  { lexer with cursor := cursor }

/-- Whether a key may begin at the next place. -/
def allowKey (lexer : Lexer) (allowed : Bool) : Lexer :=
  { lexer with keyAllowed := allowed }

/-! ## Possible keys -/

/-- Longest distance in characters between the start of a key and its colon. -/
def longestKey : Nat := 1024

/-- The colon of the possible key can no longer come. -/
def isStale (cursor : Cursor) (key : PossibleKey) : Bool :=
  key.line != cursor.line || longestKey < cursor.index - key.index

def keepFresh (cursor : Cursor) : Option PossibleKey → Except Fault (Option PossibleKey)
  | none => .ok none
  | some key =>
      if isStale cursor key then
        if key.isRequired then .error .unparseable else .ok none
      else .ok (some key)

def dropStale (lexer : Lexer) : Except Fault Lexer := do
  let candidate ← keepFresh lexer.cursor lexer.candidate
  let outerCandidates ← lexer.outerCandidates.mapM (keepFresh lexer.cursor)
  .ok { lexer with candidate := candidate, outerCandidates := outerCandidates }

/-- Gives up the possible key of this collection; one that has to be a key is a fault. -/
def dropCandidate (lexer : Lexer) : Except Fault Lexer :=
  match lexer.candidate with
  | some key =>
      if key.isRequired then .error .unparseable else .ok { lexer with candidate := none }
  | none => .ok lexer

/-- Remembers that a key may begin at this place.  The first thing on a line of a block has
to be a key if it stands at the indentation of the block. -/
def saveCandidate (lexer : Lexer) : Except Fault Lexer :=
  if lexer.keyAllowed then do
    let lexer ← lexer.dropCandidate
    let cursor := lexer.cursor
    let key : PossibleKey := {
      tokensBefore := lexer.produced.length
      isRequired := !lexer.inFlow && decide (lexer.indent = cursor.column)
      index := cursor.index
      line := cursor.line
      column := cursor.column }
    .ok { lexer with candidate := some key }
  else .ok lexer

/-! ## Indentation -/

/-- A column lies deeper than the innermost block. -/
def isDeeper (lexer : Lexer) (column : Nat) : Bool :=
  lexer.indent < column

def pushIndent (lexer : Lexer) (column : Nat) : Lexer :=
  { lexer with indent := column, outerIndents := lexer.indent :: lexer.outerIndents }

def popIndents (column : Int) : (indent : Int) → (outer : List Int) → (produced : List Token) →
    Int × List Int × List Token
  | indent, [], produced => (indent, [], produced)
  | indent, next :: outer, produced =>
      if column < indent then popIndents column next outer (.blockEnd :: produced)
      else (indent, next :: outer, produced)

/-- Ends the blocks that lie deeper than a column; inside flow collections indentation
means nothing. -/
def unwind (lexer : Lexer) (column : Int) : Lexer :=
  if lexer.inFlow then lexer
  else
    let (indent, outer, produced) :=
      popIndents column lexer.indent lexer.outerIndents lexer.produced
    { lexer with indent := indent, outerIndents := outer, produced := produced }

/-! ## Between tokens -/

/-- Past the spaces, comments and line breaks before the next token.  A new line of a block
may begin with a key.  `fuel` bounds the lines. -/
def skipBetween : (fuel : Nat) → Lexer → Lexer
  | 0, lexer => lexer
  | fuel + 1, lexer =>
      let cursor := skipComment (skipSpaces lexer.cursor)
      match cursor.lineBreak? with
      | none => lexer.moveTo cursor
      | some (_, cursor) =>
          skipBetween fuel
            { lexer with cursor := cursor, keyAllowed := lexer.keyAllowed || !lexer.inFlow }

/-- Past a byte-order mark at the very front. -/
def skipMark (lexer : Lexer) : Lexer :=
  if lexer.cursor.index == 0 && lexer.cursor.next == byteOrderMark then
    lexer.moveTo lexer.cursor.advance
  else lexer

/-! ## The kinds of tokens -/

def readEnd (lexer : Lexer) : Except Fault Lexer := do
  let lexer ← (lexer.unwind (-1)).dropCandidate
  .ok (lexer.emit .streamEnd)

def readDirectiveLine (lexer : Lexer) : Except Fault Lexer := do
  let lexer ← (lexer.unwind (-1)).dropCandidate
  let (directive, cursor) ← readDirective lexer.cursor
  .ok (((lexer.allowKey false).moveTo cursor).emit (.directive directive))

def readDocumentMark (lexer : Lexer) (token : Token) : Except Fault Lexer := do
  let lexer ← (lexer.unwind (-1)).dropCandidate
  .ok (((lexer.allowKey false).moveTo (lexer.cursor.advanceBy 3)).emit token)

def openFlow (lexer : Lexer) (token : Token) : Except Fault Lexer := do
  let lexer ← lexer.saveCandidate
  let lexer := { lexer with
    candidate := none
    outerCandidates := lexer.candidate :: lexer.outerCandidates
    keyAllowed := true }
  .ok ((lexer.moveTo lexer.cursor.advance).emit token)

def closeFlow (lexer : Lexer) (token : Token) : Except Fault Lexer := do
  let lexer ← lexer.dropCandidate
  match lexer.outerCandidates with
  | [] => .error .unparseable
  | candidate :: outerCandidates =>
      let lexer := { lexer with
        candidate := candidate
        outerCandidates := outerCandidates
        keyAllowed := false }
      .ok ((lexer.moveTo lexer.cursor.advance).emit token)

def readFlowEntry (lexer : Lexer) : Except Fault Lexer := do
  let lexer ← (lexer.allowKey true).dropCandidate
  .ok ((lexer.moveTo lexer.cursor.advance).emit .flowEntry)

/-- Begins a block at this place if it lies deeper than the block around it. -/
def beginBlock (lexer : Lexer) (token : Token) : Lexer :=
  let column := lexer.cursor.column
  if lexer.isDeeper column then (lexer.pushIndent column).emit token else lexer

/-- In a block, begins another one if a key may stand here; else that is a fault. -/
def beginBlockHere (lexer : Lexer) (token : Token) : Except Fault Lexer :=
  if lexer.inFlow then .ok lexer
  else if lexer.keyAllowed then .ok (lexer.beginBlock token)
  else .error .unparseable

def readBlockEntry (lexer : Lexer) : Except Fault Lexer := do
  let lexer ← lexer.beginBlockHere .blockSequenceStart
  let lexer ← (lexer.allowKey true).dropCandidate
  .ok ((lexer.moveTo lexer.cursor.advance).emit .blockEntry)

def readKeyMark (lexer : Lexer) : Except Fault Lexer := do
  let lexer ← lexer.beginBlockHere .blockMappingStart
  let lexer ← (lexer.allowKey (!lexer.inFlow)).dropCandidate
  .ok ((lexer.moveTo lexer.cursor.advance).emit .key)

/-- Puts the key token in before a possible key, and before that the start of a block if
the key lies deeper than the block around it. -/
def confirmKey (lexer : Lexer) (key : PossibleKey) : Lexer :=
  let lexer := { lexer with candidate := none, keyAllowed := false }
  if !lexer.inFlow && lexer.isDeeper key.column then
    (lexer.insertAfter key.tokensBefore [.blockMappingStart, .key]).pushIndent key.column
  else lexer.insertAfter key.tokensBefore [.key]

def readValueMark (lexer : Lexer) : Except Fault Lexer := do
  let lexer ← match lexer.candidate with
    | some key => .ok (lexer.confirmKey key)
    | none => do
        let lexer ← lexer.beginBlockHere .blockMappingStart
        .ok (lexer.allowKey (!lexer.inFlow))
  .ok ((lexer.moveTo lexer.cursor.advance).emit .value)

/-- A token that may begin a key and that allows none right behind it. -/
def readKeyPart
    (lexer : Lexer)
    (read : Cursor → Except Fault (Token × Cursor)) :
    Except Fault Lexer := do
  let lexer ← lexer.saveCandidate
  let (token, cursor) ← read lexer.cursor
  .ok (((lexer.allowKey false).moveTo cursor).emit token)

def readAlias (cursor : Cursor) : Except Fault (Token × Cursor) := do
  let (name, cursor) ← readName cursor
  .ok (.alias name, cursor)

def readAnchor (cursor : Cursor) : Except Fault (Token × Cursor) := do
  let (name, cursor) ← readName cursor
  .ok (.anchor name, cursor)

def readQuotedToken (style : QuoteStyle) (cursor : Cursor) : Except Fault (Token × Cursor) := do
  let (text, cursor) ← readQuoted style cursor
  .ok (.scalar text false, cursor)

def readBlockToken (lexer : Lexer) (style : BlockStyle) : Except Fault Lexer := do
  let lexer ← (lexer.allowKey true).dropCandidate
  let (text, cursor) ← readBlock style lexer.indent lexer.cursor
  .ok ((lexer.moveTo cursor).emit (.scalar text false))

/-- A plain scalar.  If it ends behind a line break, a key may follow it. -/
def readPlainToken (lexer : Lexer) : Except Fault Lexer := do
  let lexer ← lexer.saveCandidate
  let scalar := readPlain lexer.inFlow (lexer.indent + 1) lexer.cursor
  .ok (((lexer.allowKey scalar.crossesLine).moveTo scalar.cursor).emit
    (.scalar scalar.text true))

/-! ## Which token stands here -/

/-- Marks with a meaning of their own, which begin no plain scalar. -/
def reservedMarks : List Char :=
  ['-', '?', ':', ',', '[', ']', '\x7b', '\x7d', '#', '&', '*', '!', '|', '>', '\x27', '\x22',
    '%', '@', '\x60']

def beginsPlain (inFlow : Bool) (cursor : Cursor) : Bool :=
  let char := cursor.next
  !(isBlankOrEnd char || reservedMarks.contains char) ||
    (!isBlankOrEnd (cursor.ahead 1) &&
      (char == '-' || (!inFlow && (char == '?' || char == ':'))))

/-- A mark that counts before a blank, and inside flow collections always. -/
def isMarkHere (inFlow : Bool) (cursor : Cursor) : Bool :=
  inFlow || isBlankOrEnd (cursor.ahead 1)

/-- Reads the token at this place, which is not the end of the text. -/
def readToken (lexer : Lexer) : Except Fault Lexer :=
  let cursor := lexer.cursor
  let char := cursor.next
  let atLineStart := cursor.column == 0
  if char == '%' && atLineStart then lexer.readDirectiveLine
  else if atLineStart && cursor.isDocumentMark '-' then lexer.readDocumentMark .documentStart
  else if atLineStart && cursor.isDocumentMark '.' then lexer.readDocumentMark .documentEnd
  else if char == '[' then lexer.openFlow .flowSequenceStart
  else if char == '\x7b' then lexer.openFlow .flowMappingStart
  else if char == ']' then lexer.closeFlow .flowSequenceEnd
  else if char == '\x7d' then lexer.closeFlow .flowMappingEnd
  else if char == ',' then lexer.readFlowEntry
  else if char == '-' && isBlankOrEnd (cursor.ahead 1) then lexer.readBlockEntry
  else if char == '?' && isMarkHere lexer.inFlow cursor then lexer.readKeyMark
  else if char == ':' && isMarkHere lexer.inFlow cursor then lexer.readValueMark
  else if char == '*' then lexer.readKeyPart readAlias
  else if char == '&' then lexer.readKeyPart readAnchor
  else if char == '!' then lexer.readKeyPart readTag
  else if char == '|' && !lexer.inFlow then lexer.readBlockToken .literal
  else if char == '>' && !lexer.inFlow then lexer.readBlockToken .folded
  else if char == QuoteStyle.single.mark then lexer.readKeyPart (readQuotedToken .single)
  else if char == QuoteStyle.double.mark then lexer.readKeyPart (readQuotedToken .double)
  else if beginsPlain lexer.inFlow cursor then lexer.readPlainToken
  else .error .unparseable

/-- Reads tokens up to the end of the text.  Each takes at least one character, so that
`fuel` above the number of characters is enough. -/
def run : (fuel : Nat) → Lexer → Except Fault (List Token)
  | 0, _ => .error .unparseable
  | fuel + 1, lexer => do
      let lexer ← (skipBetween (lexer.cursor.rest.length + 1) lexer.skipMark).dropStale
      let lexer := lexer.unwind lexer.cursor.column
      if lexer.cursor.next == endMark then
        let lexer ← lexer.readEnd
        .ok lexer.produced.reverse
      else
        let lexer ← lexer.readToken
        run fuel lexer

end Lexer

def Token.scan? (chars : List Char) : Except Fault (List Token) :=
  Lexer.run (chars.length + 2) (Lexer.start chars)

end PhoneAccounts.Yaml

import PhoneAccounts.Text.Numeral
import PhoneAccounts.Yaml.Cursor
import PhoneAccounts.Yaml.Token

/-!
Contract: the short tokens that begin with a mark: anchors, aliases, tags and directives.

Each reader starts at the mark and returns what it read with the place after it.

Owns: `readName`, `readTag` and `readDirective`.

Does not own: where such a token is allowed (see `PhoneAccounts.Yaml.Token.Lexer`).
-/

namespace PhoneAccounts.Yaml

open PhoneAccounts.Text

/-- A letter, a digit, a dash or an underscore. -/
def isNameChar (char : Char) : Bool :=
  ('0' ≤ char && char ≤ '9') || ('A' ≤ char && char ≤ 'Z') || ('a' ≤ char && char ≤ 'z') ||
    char == '-' || char == '_'

def tagPunctuation : List Char :=
  ['-', ';', '/', '?', ':', '@', '&', '=', '+', '$', ',', '_', '.', '!', '~', '*', '\x27',
    '(', ')', '[', ']']

def isTagChar (char : Char) : Bool :=
  isNameChar char || tagPunctuation.contains char

/-- What may follow a name: a blank, the end, or one of a few marks. -/
def mayFollowName (char : Char) : Bool :=
  isBlankOrEnd char || ['?', ':', ',', ']', '\x7d', '%', '@', '\x60'].contains char

/-- The name of an anchor or an alias, behind its mark. -/
def readName (cursor : Cursor) : Except Fault (List Char × Cursor) :=
  let (name, cursor) := cursor.advance.span isNameChar
  if name.isEmpty || !mayFollowName cursor.next then .error .unparseable
  else .ok (name, cursor)

def hexDigit? (char : Char) : Option Nat :=
  if '0' ≤ char ∧ char ≤ '9' then some (char.toNat - '0'.toNat)
  else if 'a' ≤ char ∧ char ≤ 'f' then some (char.toNat - 'a'.toNat + 10)
  else if 'A' ≤ char ∧ char ≤ 'F' then some (char.toNat - 'A'.toNat + 10)
  else none

/-- The number that some hexadecimal digits write. -/
def hexNumber? (chars : List Char) : Option Nat :=
  chars.foldlM (fun total char => (hexDigit? char).map (total * 16 + ·)) 0

/-- The bytes of consecutive percent escapes, and what follows them. -/
def percentBytes? : List Char → Option (List UInt8 × List Char)
  | '%' :: high :: low :: rest => do
      let byte ← hexNumber? [high, low]
      let (bytes, rest) ← percentBytes? rest
      some (UInt8.ofNat byte :: bytes, rest)
  | '%' :: _ => none
  | rest => some ([], rest)

/-- The text of a tag, its percent escapes replaced.  `fuel` bounds the stretches. -/
def readTagText : (fuel : Nat) → (chars : List Char) → Option (List Char × List Char)
  | 0, _ => none
  | fuel + 1, chars =>
      let plain := chars.takeWhile isTagChar
      let rest := chars.drop plain.length
      if rest.head? = some '%' then do
        let (bytes, rest) ← percentBytes? rest
        let escaped ← Utf8.decode? bytes
        let (more, rest) ← readTagText fuel rest
        some (plain ++ escaped ++ more, rest)
      else some (plain, rest)

/-- The text of a tag at a place; at least one character. -/
def readTagSuffix (cursor : Cursor) : Except Fault (List Char × Cursor) :=
  match readTagText (cursor.rest.length + 1) cursor.rest with
  | none => .error .unparseable
  | some (text, rest) =>
      let consumed := cursor.rest.length - rest.length
      if consumed = 0 then .error .unparseable
      else .ok (text, cursor.advanceBy consumed)

/-- A tag handle: one exclamation mark, or a name between two.  A single mark counts only
before a space. -/
def readTagHandle (cursor : Cursor) : Except Fault (List Char × Cursor) :=
  if cursor.next != '!' then .error .unparseable
  else if cursor.ahead 1 == ' ' then .ok (['!'], cursor.advance)
  else
    let (name, after) := cursor.advance.span isNameChar
    if after.next != '!' then .error .unparseable
    else .ok ('!' :: name ++ ['!'], after.advance)

/-- The tag has a second exclamation mark before it ends. -/
def hasNamedHandle (cursor : Cursor) : Bool :=
  (cursor.advance.span fun char => !isSpaceOrEnd char && char != '!').2.next == '!'

def readTagBody (cursor : Cursor) : Except Fault (Token × Cursor) :=
  let second := cursor.ahead 1
  if second == '<' then do
    let (suffix, cursor) ← readTagSuffix (cursor.advanceBy 2)
    if cursor.next != '>' then .error .unparseable
    else .ok (.tag none suffix, cursor.advance)
  else if isBlankOrEnd second then .ok (.tag none ['!'], cursor.advance)
  else do
    let (handle, cursor) ←
      if hasNamedHandle cursor then readTagHandle cursor else .ok (['!'], cursor.advance)
    let (suffix, cursor) ← readTagSuffix cursor
    .ok (.tag (some handle) suffix, cursor)

/-- A tag at a place.  A space or a line break has to follow it. -/
def readTag (cursor : Cursor) : Except Fault (Token × Cursor) := do
  let (token, cursor) ← readTagBody cursor
  if isSpaceOrEnd cursor.next then .ok (token, cursor) else .error .unparseable

def isDigit (char : Char) : Bool := '0' ≤ char && char ≤ '9'

/-- Part of a version number, as long as a decimal numeral may be. -/
def readVersionNumber (cursor : Cursor) : Except Fault (Nat × Cursor) :=
  let (digits, cursor) := cursor.span isDigit
  if digits.isEmpty then .error .unparseable
  else if longestDecimalNumeral < digits.length then .error .impossibleValue
  else .ok (Radix.decimal.ofDigits (digits.map fun char => char.toNat - '0'.toNat), cursor)

def skipSpaces (cursor : Cursor) : Cursor :=
  cursor.skip (· == ' ')

def skipComment (cursor : Cursor) : Cursor :=
  if cursor.next == '#' then cursor.skip fun char => !isBreakOrEnd char else cursor

/-- The place after the rest of a line that holds no more than a comment. -/
def skipLineEnd (cursor : Cursor) : Except Fault Cursor :=
  let cursor := skipComment (skipSpaces cursor)
  if isBreakOrEnd cursor.next then .ok cursor.pastBreak else .error .unparseable

def readVersion (cursor : Cursor) : Except Fault (Directive × Cursor) := do
  let (major, cursor) ← readVersionNumber (skipSpaces cursor)
  if cursor.next != '.' then .error .unparseable
  else
    let (_, cursor) ← readVersionNumber cursor.advance
    if isSpaceOrEnd cursor.next then .ok (.version major, cursor) else .error .unparseable

/-- The handle and what it stands for, after the name of their directive. -/
def readTagDirective (cursor : Cursor) : Except Fault (Directive × Cursor) := do
  let (handle, cursor) ← readTagHandle (skipSpaces cursor)
  if cursor.next != ' ' then .error .unparseable
  else
    let (start, cursor) ← readTagSuffix (skipSpaces cursor)
    if isSpaceOrEnd cursor.next then .ok (.tagHandle handle start, cursor)
    else .error .unparseable

def readDirective (cursor : Cursor) : Except Fault (Directive × Cursor) := do
  let (name, cursor) := cursor.advance.span isNameChar
  if name.isEmpty || !isSpaceOrEnd cursor.next then .error .unparseable
  else
    let (directive, cursor) ←
      if name = ['Y', 'A', 'M', 'L'] then readVersion cursor
      else if name = ['T', 'A', 'G'] then readTagDirective cursor
      else .ok (.unknown, cursor.skip fun char => !isBreakOrEnd char)
    let cursor ← skipLineEnd cursor
    .ok (directive, cursor)

end PhoneAccounts.Yaml

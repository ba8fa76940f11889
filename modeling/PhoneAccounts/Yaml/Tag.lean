/-!
Contract: the tags of nodes, and the tag that a plain scalar gets from its look.

Owns: `Tag`, `Tag.ofName`, and `Tag.ofPlain` with the shapes of flags, numbers, null,
timestamps and the two special words.

Does not own: the value of a tagged scalar (see `PhoneAccounts.Yaml.Scalar`).
-/

namespace PhoneAccounts.Yaml

/-- What a node is meant to be.  `merge` and `value` mark the two special words, and
`unknown` every tag that no value has. -/
inductive Tag where
  | null
  | boolean
  | integer
  | real
  | binary
  | timestamp
  | text
  | sequence
  | mapping
  | set
  | orderedMap
  | pairs
  | merge
  | value
  | unknown
deriving DecidableEq, Repr

namespace Tag

/-- What all common tags begin with. -/
def commonStart : List Char := "tag:yaml.org,2002:".toList

def commonWords : List (List Char × Tag) :=
  [("null".toList, .null), ("bool".toList, .boolean), ("int".toList, .integer),
    ("float".toList, .real), ("binary".toList, .binary), ("timestamp".toList, .timestamp),
    ("str".toList, .text), ("seq".toList, .sequence), ("map".toList, .mapping),
    ("set".toList, .set), ("omap".toList, .orderedMap), ("pairs".toList, .pairs),
    ("merge".toList, .merge), ("value".toList, .value)]

def ofName (name : List Char) : Tag :=
  match commonWords.find? fun word => commonStart ++ word.1 = name with
  | some word => word.2
  | none => .unknown

/-! ## Shapes of plain scalars -/

def isDigit (char : Char) : Bool := '0' ≤ char && char ≤ '9'

/-- A decimal digit, or the underscore that may stand between digits. -/
def isDigitOrGap (char : Char) : Bool := isDigit char || char == '_'

def dropSign : List Char → List Char
  | '-' :: rest => rest
  | '+' :: rest => rest
  | rest => rest

/-- At least one character, and all of them pass the test. -/
def isRunOf (test : Char → Bool) (chars : List Char) : Bool :=
  !chars.isEmpty && chars.all test

/-- Colons with sixties behind each of them, one group at least, and what follows. -/
def sixties? : List Char → Option (List Char)
  | ':' :: first :: second :: rest =>
      if '0' ≤ first && first ≤ '5' && isDigit second then
        match rest with
        | ':' :: _ => (sixties? rest)
        | _ => some rest
      else if isDigit first then
        if second == ':' then sixties? (second :: rest) else some (second :: rest)
      else none
  | [':', only] => if isDigit only then some [] else none
  | _ => none

/-- A number in groups of sixty, and what follows its last group. -/
def sixtiesAfter? (chars : List Char) : Option (List Char) :=
  sixties? (chars.dropWhile isDigitOrGap)

/-- The shape of an integer without its sign: binary, octal, decimal, hexadecimal or in
groups of sixty. -/
def isNaturalShape (chars : List Char) : Bool :=
  match chars with
  | ['0'] => true
  | '0' :: 'b' :: rest => isRunOf (fun char => char == '0' || char == '1' || char == '_') rest
  | '0' :: 'x' :: rest =>
      isRunOf
        (fun char => isDigitOrGap char || ('a' ≤ char && char ≤ 'f') || ('A' ≤ char && char ≤ 'F'))
        rest
  | '0' :: rest => isRunOf (fun char => ('0' ≤ char && char ≤ '7') || char == '_') rest
  | first :: rest =>
      isDigit first && (rest.all isDigitOrGap || sixtiesAfter? rest == some [])
  | [] => false

def isIntegerShape (chars : List Char) : Bool :=
  isNaturalShape (dropSign chars)

def isExponentShape : List Char → Bool
  | [] => true
  | letter :: sign :: digits =>
      (letter == 'e' || letter == 'E') && (sign == '-' || sign == '+') && isRunOf isDigit digits
  | _ => false

/-- Digits, a point, digits that may be missing, and an exponent that may be missing. -/
def isPointShape (chars : List Char) : Bool :=
  match chars with
  | first :: _ =>
      isDigit first &&
        match chars.dropWhile isDigitOrGap with
        | '.' :: rest => isExponentShape (rest.dropWhile isDigitOrGap)
        | _ => false
  | [] => false

/-- A number in groups of sixty with a point behind the last. -/
def isSixtiesPointShape (chars : List Char) : Bool :=
  match chars with
  | first :: rest =>
      isDigit first &&
        match sixtiesAfter? rest with
        | some ('.' :: rest) => rest.all isDigitOrGap
        | _ => false
  | [] => false

/-- The words for an infinite number, behind the point. -/
def infiniteWords : List (List Char) := ["inf".toList, "Inf".toList, "INF".toList]

/-- The words for the undefined number, behind the point. -/
def undefinedWords : List (List Char) := ["nan".toList, "NaN".toList, "NAN".toList]

/-- The shape of a floating-point number.  A number that begins with its point takes no
sign, the infinite ones apart. -/
def isRealShape (chars : List Char) : Bool :=
  let body := dropSign chars
  isPointShape body || isSixtiesPointShape body ||
    (match body with
      | '.' :: rest => infiniteWords.contains rest
      | _ => false) ||
    match chars with
    | '.' :: first :: rest =>
        undefinedWords.contains (first :: rest) ||
          (isDigit first && isExponentShape (rest.dropWhile isDigitOrGap))
    | _ => false

def flagWords : List (List Char × Bool) :=
  [("yes".toList, true), ("Yes".toList, true), ("YES".toList, true),
    ("no".toList, false), ("No".toList, false), ("NO".toList, false),
    ("true".toList, true), ("True".toList, true), ("TRUE".toList, true),
    ("false".toList, false), ("False".toList, false), ("FALSE".toList, false),
    ("on".toList, true), ("On".toList, true), ("ON".toList, true),
    ("off".toList, false), ("Off".toList, false), ("OFF".toList, false)]

def nullWords : List (List Char) :=
  [[], ['~'], "null".toList, "Null".toList, "NULL".toList]

/-- Marks that, alone, are kept for the language itself. -/
def languageMarks : List (List Char) := [['!'], ['&'], ['*']]

end Tag

/-! ## Shapes of timestamps -/

/-- The parts of a written timestamp.  `offset` is the sign, the hours and the minutes of a
distance to universal time; a `Z` has no distance. -/
structure TimestampParts where
  year : List Char
  month : List Char
  day : List Char
  time : Option (List Char × List Char × List Char × List Char)
  zone : Option (Option (Char × List Char × List Char))
deriving DecidableEq, Repr

namespace TimestampParts

open Tag

/-- A run of digits of one of the lengths, the longest that is there, and what follows. -/
def digits? (least most : Nat) (chars : List Char) : Option (List Char × List Char) :=
  let run := (chars.take most).takeWhile isDigit
  if least ≤ run.length then some (run, chars.drop run.length) else none

/-- The text behind a character that has to come next. -/
def behind? (mark : Char) : List Char → Option (List Char)
  | [] => none
  | char :: rest => if char = mark then some rest else none

def isBlank (char : Char) : Bool := char == ' ' || char == '\t'

/-- The zone at the end of a time: nothing, a `Z`, or a signed distance, with blanks in
front of either. -/
def zone? (chars : List Char) : Option (Option (Option (Char × List Char × List Char))) :=
  match chars with
  | [] => some none
  | _ =>
      match chars.dropWhile isBlank with
      | ['Z'] => some (some none)
      | sign :: rest =>
          if sign == '-' || sign == '+' then do
            let (hours, rest) ← digits? 1 2 rest
            match rest with
            | [] => some (some (some (sign, hours, [])))
            | _ => do
                let (minutes, rest) ← digits? 2 2 (← behind? ':' rest)
                if rest.isEmpty then some (some (some (sign, hours, minutes))) else none
          else none
      | [] => none

/-- The text behind the letter or the blanks between date and time. -/
def behindSeparator? (chars : List Char) : Option (List Char) :=
  match chars with
  | [] => none
  | char :: rest =>
      if char == 'T' || char == 't' then some rest
      else if isBlank char then some (rest.dropWhile isBlank)
      else none

def ofText? (chars : List Char) : Option TimestampParts := do
  let (year, rest) ← digits? 4 4 chars
  let (month, rest) ← digits? 1 2 (← behind? '-' rest)
  let (day, rest) ← digits? 1 2 (← behind? '-' rest)
  if rest.isEmpty then some ⟨year, month, day, none, none⟩
  else
    let (hour, rest) ← digits? 1 2 (← behindSeparator? rest)
    let (minute, rest) ← digits? 2 2 (← behind? ':' rest)
    let (second, rest) ← digits? 2 2 (← behind? ':' rest)
    let (fraction, rest) := match rest with
      | '.' :: rest => (rest.takeWhile isDigit, rest.dropWhile isDigit)
      | rest => ([], rest)
    let zone ← zone? rest
    some ⟨year, month, day, some (hour, minute, second, fraction), zone⟩

/-- A plain scalar is a timestamp only if a date without a time has all its digits. -/
def isPlainShape (parts : TimestampParts) : Bool :=
  parts.time.isSome || (parts.month.length == 2 && parts.day.length == 2)

end TimestampParts

namespace Tag

/-- The text without one line feed at its end: the shapes do not look at it. -/
def dropFinalFeed (chars : List Char) : List Char :=
  if chars.getLast? = some '\n' then chars.dropLast else chars

/-- The tag of a scalar that shows its kind by its look. -/
def ofPlain (text : List Char) : Tag :=
  let chars := if text = ['\n'] then text else dropFinalFeed text
  if flagWords.any fun word => word.1 = chars then .boolean
  else if isRealShape chars then .real
  else if isIntegerShape chars then .integer
  else if chars = ['<', '<'] then .merge
  else if nullWords.contains chars then .null
  else if ((TimestampParts.ofText? chars).map TimestampParts.isPlainShape).getD false then
    .timestamp
  else if chars = ['='] then .value
  else if languageMarks.contains chars then .unknown
  else .text

example : ofPlain "0o7".toList = .text := by decide +kernel

example : ofPlain "1:30".toList = .integer := by decide +kernel

example : ofPlain "1e5".toList = .text := by decide +kernel

example : ofPlain "2020-02-30".toList = .timestamp := by decide +kernel

end Tag

end PhoneAccounts.Yaml

import PhoneAccounts.Text.Blank
import PhoneAccounts.Text.Digit

/-!
Contract: integers written as text, in both directions.

A numeral is an optional sign and one or more digits of any script; a single
underscore may stand between two digits, and blanks around the whole are ignored.
Binary, octal and hexadecimal numerals may carry the usual two-character marker.
A decimal numeral has at most 4300 digits: a longer one is not read, and an integer that would
need one is not written.

Owns: radices, `readInteger?`, `integerText`, which integers can be written, and the
fixed-width hexadecimal text that escapes use.

Does not own: which fields hold a numeral, or the numerals of the markup, whose
radix depends on how they begin (see `PhoneAccounts.Yaml.Scalar`).
-/

namespace PhoneAccounts.Text

/-- The radices a numeral can be read in. -/
inductive Radix where
  | binary
  | octal
  | decimal
  | hexadecimal
deriving DecidableEq, Repr

/-- Number of different digits. -/
def Radix.base : Radix → Nat
  | .binary => 2
  | .octal => 8
  | .decimal => 10
  | .hexadecimal => 16

/-- Letters that, after a zero, announce the radix; a decimal numeral has no marker. -/
def Radix.markers : Radix → List Char
  | .binary => ['b', 'B']
  | .octal => ['o', 'O']
  | .decimal => []
  | .hexadecimal => ['x', 'X']

/-- Longest decimal numeral that is read or written; the other radices have no limit. -/
def longestDecimalNumeral : Nat := 4300

def letterValue? (char : Char) : Option Nat :=
  if 'a' ≤ char ∧ char ≤ 'z' then some (char.toNat - 'a'.toNat + 10)
  else if 'A' ≤ char ∧ char ≤ 'Z' then some (char.toNat - 'A'.toNat + 10)
  else none

def Radix.digit? (radix : Radix) (char : Char) : Option Nat :=
  ((decimalDigit? char).orElse fun _ => letterValue? char).filter (· < radix.base)

/-- Digits with single underscores between them; the first character is a digit or
the text is empty. -/
def Radix.digits? (radix : Radix) : List Char → Option (List Nat)
  | [] => some []
  | '_' :: char :: rest => do
      let value ← radix.digit? char
      let values ← radix.digits? rest
      some (value :: values)
  | char :: rest => do
      let value ← radix.digit? char
      let values ← radix.digits? rest
      some (value :: values)

/-- Number written by a list of digits, most significant first. -/
def Radix.ofDigits (radix : Radix) (digits : List Nat) : Nat :=
  digits.foldl (fun total digit => total * radix.base + digit) 0

/-- The numeral without its marker.  One underscore may follow a marker. -/
def Radix.dropMarker (radix : Radix) : List Char → List Char
  | '0' :: letter :: rest =>
      if radix.markers.contains letter then
        match rest with
        | '_' :: digits => digits
        | digits => digits
      else '0' :: letter :: rest
  | chars => chars

/-- A numeral without sign and blanks. -/
def Radix.readNatural? (radix : Radix) (chars : List Char) : Option Nat :=
  match radix.dropMarker chars with
  | [] => none
  | '_' :: _ => none
  | digits => do
      let values ← radix.digits? digits
      if radix = .decimal ∧ longestDecimalNumeral < values.length then none
      else some (radix.ofDigits values)

/-- A numeral with an optional sign and blanks around it. -/
def Radix.readInteger? (radix : Radix) (chars : List Char) : Option Int :=
  match trimBlank chars with
  | '-' :: rest => (radix.readNatural? rest).map fun value => -(value : Int)
  | '+' :: rest => (radix.readNatural? rest).map Int.ofNat
  | rest => (radix.readNatural? rest).map Int.ofNat

def readInteger? (chars : List Char) : Option Int :=
  Radix.decimal.readInteger? chars

/-- Decimal digits of a natural number, without leading zeros. -/
def naturalText (value : Nat) : List Char :=
  Nat.toDigits 10 value

/-- Decimal digits of an integer, after a minus sign if it is negative. -/
def integerText : Int → List Char
  | .ofNat value => naturalText value
  | .negSucc value => '-' :: naturalText (value + 1)

/-- An integer can be written: its numeral is none too long. -/
def isWritable (value : Int) : Bool :=
  decide ((naturalText value.natAbs).length ≤ longestDecimalNumeral)

/-- Decimal digits, with zeros in front up to the width. -/
def paddedText (width value : Nat) : List Char :=
  let digits := naturalText value
  List.replicate (width - digits.length) '0' ++ digits

/-- Which letters write the digits ten to fifteen. -/
inductive LetterCase where
  | lower
  | upper
deriving DecidableEq, Repr

/-- A hexadecimal digit; values from sixteen on are taken modulo sixteen. -/
def LetterCase.hexDigit (case : LetterCase) (value : Nat) : Char :=
  let value := value % 16
  if value < 10 then Char.ofNat ('0'.toNat + value)
  else match case with
    | .lower => Char.ofNat ('a'.toNat + (value - 10))
    | .upper => Char.ofNat ('A'.toNat + (value - 10))

/-- The lowest `width` hexadecimal digits of a number. -/
def LetterCase.hexText (case : LetterCase) : (width value : Nat) → List Char
  | 0, _ => []
  | width + 1, value => case.hexText width (value / 16) ++ [case.hexDigit value]

example : readInteger? " 1_000\n".toList = some 1000 := by decide

example : readInteger? "1__0".toList = none := by decide

example : readInteger? "-07".toList = some (-7) := by decide

example : String.ofList (LetterCase.upper.hexText 4 0x1F) = "001F" := by decide

end PhoneAccounts.Text

import PhoneAccounts.Text.Numeral

/-!
Contract: decimal text as a floating-point number.

The text is an optional sign and then either a word for an infinite or undefined
value, or digits of any script with an optional point and an optional exponent;
the result is the number nearest to what the text says.

Owns: `readReal?` and `realOfDecimal`.

Does not own: which scalars of the markup are floating-point numbers.
-/

namespace PhoneAccounts.Number

open PhoneAccounts.Text

/-- Bits of the positive infinite number. -/
def infinity : Float := Float.ofBits 0x7FF0000000000000

def undefinedNumber : Float := Float.ofBits 0x7FF8000000000000

/-- A decimal exponent from which every number is infinite, and below whose opposite
every number is zero. -/
def decimalExponentBound : Int := 400

/-- The number nearest to `significand * 10 ^ exponent`. -/
def realOfDecimal (significand : Nat) (exponent : Int) : Float :=
  let magnitude := ((naturalText significand).length : Int) + exponent
  if significand = 0 then 0
  else if decimalExponentBound < magnitude then infinity
  else if magnitude < -decimalExponentBound then 0
  else Float.ofScientific significand (decide (exponent < 0)) exponent.natAbs

/-- The digits at the front of a text, and what follows them. -/
def splitDigits (chars : List Char) : List Nat × List Char :=
  let isDigit (char : Char) : Bool := (decimalDigit? char).isSome
  ((chars.takeWhile isDigit).filterMap decimalDigit?, chars.dropWhile isDigit)

/-- An exponent after its letter: an optional sign and at least one digit, to the end. -/
def readExponent? (chars : List Char) : Option Int :=
  let (negative, body) := match chars with
    | '-' :: rest => (true, rest)
    | '+' :: rest => (false, rest)
    | rest => (false, rest)
  match splitDigits body with
  | ([], _) => none
  | (digits, []) =>
      let value : Int := Radix.decimal.ofDigits digits
      some (if negative then -value else value)
  | (_, _ :: _) => none

/-- A number without a sign, in lower-case letters. -/
def readMagnitude? (chars : List Char) : Option Float :=
  if chars = ['i', 'n', 'f'] ∨ chars = ['i', 'n', 'f', 'i', 'n', 'i', 't', 'y'] then
    some infinity
  else if chars = ['n', 'a', 'n'] then some undefinedNumber
  else
    let (whole, afterWhole) := splitDigits chars
    let (fraction, afterFraction) := match afterWhole with
      | '.' :: rest => splitDigits rest
      | rest => ([], rest)
    let digits := whole ++ fraction
    if digits.isEmpty then none
    else do
      let power ← match afterFraction with
        | [] => some 0
        | 'e' :: rest => readExponent? rest
        | _ => none
      some (realOfDecimal (Radix.decimal.ofDigits digits) (power - (fraction.length : Int)))

/-- A decimal number with an optional sign and blanks around it. -/
def readReal? (chars : List Char) : Option Float :=
  match trimBlank (chars.map Char.toLower) with
  | '-' :: rest => (readMagnitude? rest).map fun value => -value
  | '+' :: rest => readMagnitude? rest
  | rest => readMagnitude? rest

end PhoneAccounts.Number

import PhoneAccounts.Number.Binary64
import PhoneAccounts.Text.Numeral

/-!
Contract: the shortest decimal text of a floating-point number that reads back as it.

The real numbers that round to a given number form an interval.  Among the decimal
grids with 1, 2, … 17 significant digits the first one with a point in the interval
gives the digits; of two such points the nearer is taken, and of two equally near
ones the even one.

Owns: the rounding interval, `shortestDigits`, and the layout of the text.

Does not own: reading decimal text.
-/

namespace PhoneAccounts.Number

open PhoneAccounts.Text

def tenTo (power : Nat) : Nat := Nat.pow 10 power

/-- A rounding interval around a value; the four numbers are integers over one common
denominator.  Its ends belong to it when the significand is even. -/
structure Interval where
  low : Nat
  value : Nat
  high : Nat
  denominator : Nat
  closed : Bool
deriving DecidableEq, Repr

/-- Interval of the reals that round to `significand * 2 ^ exponent`.  The lower half is
only half as wide at a power of two, except among the smallest numbers. -/
def intervalOf (significand : Nat) (exponent : Int) : Interval :=
  let below := if significand = twoTo storedBits ∧ leastExponent < exponent then 1 else 2
  let quarter := exponent - 2
  let scale := twoTo quarter.toNat
  { low := (4 * significand - below) * scale
    value := 4 * significand * scale
    high := (4 * significand + 2) * scale
    denominator := twoTo (-quarter).toNat
    closed := significand % 2 == 0 }

/-- The interval after multiplication by a power of ten. -/
def Interval.shift (interval : Interval) (power : Int) : Interval :=
  let scale := tenTo power.toNat
  { low := interval.low * scale
    value := interval.value * scale
    high := interval.high * scale
    denominator := interval.denominator * tenTo (-power).toNat
    closed := interval.closed }

/-- An integer lies in the interval. -/
def Interval.holds (interval : Interval) (point : Nat) : Bool :=
  let scaled := point * interval.denominator
  if interval.closed then interval.low ≤ scaled && scaled ≤ interval.high
  else interval.low < scaled && scaled < interval.high

/-- The integer of the interval that is nearest to its value, if it holds one of the two
neighbours of the value. -/
def Interval.nearestInteger? (interval : Interval) : Option Nat :=
  let below := interval.value / interval.denominator
  let above := below + 1
  match interval.holds below, interval.holds above with
  | true, false => some below
  | false, true => some above
  | false, false => none
  | true, true =>
      let down := interval.value - below * interval.denominator
      let up := above * interval.denominator - interval.value
      if down < up then some below
      else if up < down then some above
      else if below % 2 = 0 then some below
      else some above

/-- Decimal exponent: the value lies in `[10 ^ k, 10 ^ (k + 1))`.  The search walks up
from the estimate in at most `steps` steps. -/
def Interval.magnitudeFrom (interval : Interval) : (steps : Nat) → Int → Int
  | 0, power => power
  | steps + 1, power =>
      let next := interval.shift (-(power + 1))
      if next.denominator ≤ next.value then interval.magnitudeFrom steps (power + 1)
      else power

def Interval.magnitude (interval : Interval) : Int :=
  let estimate : Int :=
    (naturalText interval.value).length - (naturalText interval.denominator).length - 1
  interval.magnitudeFrom 2 estimate

/-- Significant digits and the position of the point: the value is
`0.d₁d₂… * 10 ^ point`. -/
structure Digits where
  digits : List Char
  point : Int
deriving DecidableEq, Repr

/-- First grid with a point in the interval, from `count` digits upwards. -/
def Interval.searchGrids
    (interval : Interval)
    (magnitude : Int) : (remaining count : Nat) → Option Digits
  | 0, _ => none
  | remaining + 1, count =>
      match (interval.shift ((count : Int) - 1 - magnitude)).nearestInteger? with
      | some point =>
          let text := naturalText point
          some
            { digits := (text.reverse.dropWhile (· = '0')).reverse
              point := magnitude + 1 + ((text.length : Int) - count) }
      | none => interval.searchGrids magnitude remaining (count + 1)

/-- Shortest digits of a positive number; seventeen always suffice. -/
def shortestDigits (significand : Nat) (exponent : Int) : Digits :=
  let interval := intervalOf significand exponent
  (interval.searchGrids interval.magnitude 17 1).getD ⟨[], 0⟩

/-- Where the positional spelling ends, and how the exponent is spelled. -/
structure Layout where
  /-- The point may stand behind at most this many digits. -/
  longestInteger : Int
  /-- At most this many zeros may follow the point before the first digit. -/
  mostLeadingZeros : Int
  /-- The exponent has at least this many digits. -/
  exponentWidth : Nat

/-- Positional from `1e-04` to below `1e16`, and exponents of at least two digits. -/
def layout : Layout where
  longestInteger := 16
  mostLeadingZeros := 3
  exponentWidth := 2

/-- The exponential spelling: one digit, the others behind a point, a signed exponent. -/
def Digits.exponential (digits : Digits) : List Char :=
  let power := digits.point - 1
  let fraction := digits.digits.drop 1
  digits.digits.take 1 ++
    (if fraction.isEmpty then [] else '.' :: fraction) ++
    'e' :: (if power < 0 then '-' else '+') ::
    paddedText layout.exponentWidth power.natAbs

/-- The positional spelling, with at least one digit on each side of the point. -/
def Digits.positional (digits : Digits) : List Char :=
  if digits.point ≤ 0 then
    '0' :: '.' :: List.replicate digits.point.natAbs '0' ++ digits.digits
  else
    let width := digits.point.toNat
    let whole := digits.digits.take width
    let fraction := digits.digits.drop width
    whole ++ List.replicate (width - whole.length) '0' ++ '.' ::
      (if fraction.isEmpty then ['0'] else fraction)

def realText (value : Float) : List Char :=
  let signed (negative : Bool) (text : List Char) : List Char :=
    if negative then '-' :: text else text
  match partsOf value with
  | .notANumber => ['n', 'a', 'n']
  | .infinite negative => signed negative ['i', 'n', 'f']
  | .finite negative significand exponent =>
      if significand = 0 then signed negative ['0', '.', '0']
      else
        let digits := shortestDigits significand exponent
        let isPositional :=
          digits.point ≤ layout.longestInteger ∧ -layout.mostLeadingZeros ≤ digits.point
        signed negative (if isPositional then digits.positional else digits.exponential)

end PhoneAccounts.Number

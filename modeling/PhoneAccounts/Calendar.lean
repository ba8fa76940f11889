import PhoneAccounts.Text.Numeral

/-!
Contract: calendar dates and points in time as they occur in documents.

Owns: `Date`, `Timestamp`, which field values name a real day and time, the instant of
a timestamp, and the two spellings of each (the plain one and the one of messages).

Does not own: the written form that documents use (see `PhoneAccounts.Yaml.Scalar`).
-/

namespace PhoneAccounts

open PhoneAccounts.Text

/-- A day of the proleptic Gregorian calendar. -/
structure Date where
  year : Nat
  month : Nat
  day : Nat
deriving DecidableEq, Repr

namespace Date

/-- The year has a twenty-ninth of February. -/
def isLeapYear (year : Nat) : Bool :=
  year % 4 == 0 && (year % 100 != 0 || year % 400 == 0)

def daysInMonth (year month : Nat) : Nat :=
  if month = 2 then if isLeapYear year then 29 else 28
  else if month = 4 ∨ month = 6 ∨ month = 9 ∨ month = 11 then 30
  else 31

/-- The three numbers name a day of the years 1 to 9999. -/
def isReal (date : Date) : Bool :=
  1 ≤ date.year && date.year ≤ 9999 &&
  1 ≤ date.month && date.month ≤ 12 &&
  1 ≤ date.day && date.day ≤ daysInMonth date.year date.month

/-- Number of days since the first day of the year 1. -/
def ordinal (date : Date) : Nat :=
  let years := date.year - 1
  let months := (List.range (date.month - 1)).foldl
    (fun total index => total + daysInMonth date.year (index + 1)) 0
  years * 365 + years / 4 - years / 100 + years / 400 + months + (date.day - 1)

/-- Year, month and day with hyphens. -/
def plainText (date : Date) : List Char :=
  paddedText 4 date.year ++ '-' :: paddedText 2 date.month ++
    '-' :: paddedText 2 date.day

end Date

/-- A date, a time of day, and possibly the distance to universal time in minutes. -/
structure Timestamp where
  date : Date
  hour : Nat
  minute : Nat
  second : Nat
  microsecond : Nat
  offset : Option Int
deriving DecidableEq, Repr

namespace Timestamp

/-- The fields name a real day, a time of day without leap second, and a distance of less
than one day. -/
def isReal (timestamp : Timestamp) : Bool :=
  timestamp.date.isReal && timestamp.hour < 24 && timestamp.minute < 60 &&
  timestamp.second < 60 && timestamp.microsecond < 1000000 &&
  match timestamp.offset with
  | none => true
  | some minutes => minutes.natAbs < 24 * 60

/-- Microseconds since the first day of the year 1, in universal time if the distance to it
is known. -/
def instant (timestamp : Timestamp) : Int :=
  let minutes : Int :=
    (timestamp.date.ordinal * 24 + timestamp.hour : Int) * 60 + timestamp.minute -
      timestamp.offset.getD 0
  (minutes * 60 + timestamp.second) * 1000000 + timestamp.microsecond

/-- Both timestamps know their distance to universal time, or neither does, and they are
the same instant. -/
def isSameInstant (left right : Timestamp) : Bool :=
  left.offset.isSome == right.offset.isSome && left.instant == right.instant

/-- A distance to universal time as hours and minutes. -/
def offsetText (minutes : Int) : List Char :=
  let size := minutes.natAbs
  (if minutes < 0 then '-' else '+') :: paddedText 2 (size / 60) ++
    ':' :: paddedText 2 (size % 60)

/-- Date and time with a space between them. -/
def plainText (timestamp : Timestamp) : List Char :=
  timestamp.date.plainText ++ ' ' ::
    paddedText 2 timestamp.hour ++ ':' :: paddedText 2 timestamp.minute ++
    ':' :: paddedText 2 timestamp.second ++
    (if timestamp.microsecond = 0 then []
      else '.' :: paddedText 6 timestamp.microsecond) ++
    match timestamp.offset with
    | none => []
    | some minutes => offsetText minutes

end Timestamp

end PhoneAccounts

import PhoneAccounts.Calendar
import PhoneAccounts.Number.Reading
import PhoneAccounts.Text.Base64
import PhoneAccounts.Tree.Basic
import PhoneAccounts.Yaml.Fault
import PhoneAccounts.Yaml.Tag

/-!
Contract: the values of scalars, by their tags.

A tag that is written out need not fit the text, so each reader can fail.

Owns: the readers of integers, numbers, flags, timestamps and binary data.

Does not own: which tag a scalar has (see `PhoneAccounts.Yaml.Tag`).
-/

namespace PhoneAccounts.Yaml

open PhoneAccounts.Text

def splitColons : List Char → List (List Char)
  | [] => [[]]
  | ':' :: rest => [] :: splitColons rest
  | char :: rest =>
      match splitColons rest with
      | [] => [[char]]
      | part :: parts => (char :: part) :: parts

def orImpossible {Value : Type} : Option Value → Except Fault Value
  | some value => .ok value
  | none => .error .impossibleValue

def splitSign? (text : List Char) : Except Fault (Bool × List Char) :=
  match text with
  | [] => .error .numberWithoutDigits
  | '-' :: rest => .ok (true, rest)
  | '+' :: rest => .ok (false, rest)
  | rest => .ok (false, rest)

/-- An integer without its first sign.  A zero in front announces the radix; colons
separate groups of sixty. -/
def readMagnitude (chars : List Char) : Except Fault Int :=
  match chars with
  | [] => .error .numberWithoutDigits
  | ['0'] => .ok 0
  | '0' :: 'b' :: rest => orImpossible (Radix.binary.readInteger? rest)
  | '0' :: 'x' :: rest => orImpossible (Radix.hexadecimal.readInteger? rest)
  | '0' :: _ => orImpossible (Radix.octal.readInteger? chars)
  | _ =>
      if chars.contains ':' then do
        let groups ← orImpossible ((splitColons chars).mapM readInteger?)
        .ok (groups.foldl (fun total group => total * 60 + group) 0)
      else orImpossible (readInteger? chars)

/-- The integer that a text writes; underscores mean nothing. -/
def integerOf (text : List Char) : Except Fault Int := do
  let (negative, chars) ← splitSign? (text.filter (· ≠ '_'))
  let magnitude ← readMagnitude chars
  .ok (if negative then -magnitude else magnitude)

/-- The sum of groups of sixty, the last group first. -/
def sumOfSixties (groups : List Float) : Float :=
  (groups.foldl
    (fun (state : Float × Nat) group =>
      (state.1 + group * Float.ofNat state.2, state.2 * 60))
    (0, 1)).1

/-- Groups of sixty whose weights are floating-point numbers. -/
def mostSixties : Nat := 174

/-- A floating-point number without its first sign, in lower-case letters. -/
def readRealMagnitude (chars : List Char) : Except Fault Float :=
  if chars = ['.', 'i', 'n', 'f'] then .ok Number.infinity
  else if chars = ['.', 'n', 'a', 'n'] then .ok Number.undefinedNumber
  else if chars.contains ':' then do
    let groups ← orImpossible ((splitColons chars).mapM Number.readReal?)
    if mostSixties < groups.length then .error .excessiveNumber
    else .ok (sumOfSixties groups.reverse)
  else orImpossible (Number.readReal? chars)

/-- The floating-point number that a text writes; underscores mean nothing. -/
def realOf (text : List Char) : Except Fault Float := do
  let (negative, chars) ← splitSign? ((text.filter (· ≠ '_')).map Char.toLower)
  let magnitude ← readRealMagnitude chars
  .ok (if negative then -magnitude else magnitude)

/-- The flag that a word means, whatever the case of its letters. -/
def flagOf (text : List Char) : Except Fault Bool :=
  match Tag.flagWords.find? fun word => word.1 = text.map Char.toLower with
  | some word => .ok word.2
  | none => .error .unknownFlag

def digitsValue (digits : List Char) : Nat :=
  Radix.decimal.ofDigits (digits.map fun char => char.toNat - '0'.toNat)

/-- Microseconds of a fraction of a second; further digits are dropped. -/
def microsecondsOf (fraction : List Char) : Nat :=
  digitsValue ((fraction ++ List.replicate 6 '0').take 6)

def offsetOf : Option (Char × List Char × List Char) → Int
  | none => 0
  | some (sign, hours, minutes) =>
      let size : Int := digitsValue hours * 60 + digitsValue minutes
      if sign == '-' then -size else size

def timestampOf (text : List Char) : Except Fault Tree :=
  match TimestampParts.ofText? (Tag.dropFinalFeed text) with
  | none => .error .shapelessTimestamp
  | some parts =>
      let date : Date :=
        ⟨digitsValue parts.year, digitsValue parts.month, digitsValue parts.day⟩
      match parts.time with
      | none => if date.isReal then .ok (.date date) else .error .impossibleValue
      | some (hour, minute, second, fraction) =>
          let timestamp : Timestamp := {
            date := date
            hour := digitsValue hour
            minute := digitsValue minute
            second := digitsValue second
            microsecond := microsecondsOf fraction
            offset := parts.zone.map offsetOf }
          if timestamp.isReal then .ok (.timestamp timestamp) else .error .impossibleValue

def binaryOf (text : List Char) : Except Fault (List UInt8) :=
  if text.all fun char => char.toNat < 0x80 then
    match Base64.decodeLenient? text with
    | some bytes => .ok bytes
    | none => .error .unparseable
  else .error .unparseable

end PhoneAccounts.Yaml

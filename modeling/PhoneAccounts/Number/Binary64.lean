/-!
Contract: the exact value of a binary floating-point number.

A finite number is a sign, a natural significand and a power of two, so that it can
be compared and printed in exact integer arithmetic.

Owns: powers of two, `Parts`, `partsOf`, and the comparison with an integer.

Does not own: decimal text (see `PhoneAccounts.Number.Shortest` and
`PhoneAccounts.Number.Reading`).
-/

namespace PhoneAccounts.Number

def twoTo (power : Nat) : Nat := Nat.pow 2 power

/-- What the 64 bits of a number say. -/
inductive Parts where
  | notANumber
  | infinite (negative : Bool)
  | finite (negative : Bool) (significand : Nat) (exponent : Int)
deriving DecidableEq, Repr

/-- Number of stored significand bits. -/
def storedBits : Nat := 52

/-- Number of stored exponent bits. -/
def exponentBits : Nat := 11

/-- Exponent of the last bit of the smallest numbers. -/
def leastExponent : Int := -1074

/-- The sign, significand and exponent of a number: its magnitude is
`significand * 2 ^ exponent`. -/
def partsOf (value : Float) : Parts :=
  let bits : Nat := value.toBits.toNat
  let negative : Bool := twoTo (storedBits + exponentBits) ≤ bits
  let biased : Nat := bits / twoTo storedBits % twoTo exponentBits
  let fraction : Nat := bits % twoTo storedBits
  if biased = twoTo exponentBits - 1 then
    if fraction = 0 then .infinite negative else .notANumber
  else if biased = 0 then .finite negative fraction leastExponent
  else .finite negative (fraction + twoTo storedBits) (leastExponent + ((biased : Int) - 1))

/-- The number is exactly this integer. -/
def equalsInteger (value : Float) (integer : Int) : Bool :=
  match partsOf value with
  | .finite negative significand exponent =>
      let signed : Int := if negative then -(significand : Int) else significand
      if 0 ≤ exponent then signed * twoTo exponent.toNat == integer
      else signed == integer * twoTo (-exponent).toNat
  | _ => false

/-- The number is neither zero nor absent, so it counts as present where a field asks
for that; an undefined number counts as present too. -/
def isNonzero (value : Float) : Bool :=
  match partsOf value with
  | .finite _ significand _ => significand != 0
  | _ => true

end PhoneAccounts.Number

/-!
Contract: integers as sets of bits.

A negative integer stands for the infinite set that two's complement gives it: the
complement of the bits of `-value - 1`.

Owns: `Mask.bit` and `Mask.covers`.

Does not own: which bit means which capability (see `PhoneAccounts.Capability`).
-/

namespace PhoneAccounts.Mask

def bit (index : Nat) : Int → Bool
  | .ofNat value => value.testBit index
  | .negSucc value => !value.testBit index

def covers : (value mask : Int) → Bool
  | .ofNat value, .ofNat mask => value &&& mask == mask
  | .negSucc absent, .ofNat mask => mask &&& absent == 0
  | .ofNat _, .negSucc _ => false
  | .negSucc absent, .negSucc excluded => absent &&& excluded == absent

example : covers 6 2 = true := by decide

example : covers 4 6 = false := by decide

example : covers (-1) (2 ^ 70) = true := by decide

example : covers 5 (-3) = false := by decide

end PhoneAccounts.Mask

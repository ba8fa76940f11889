/-!
Contract: reading text that is stored as UTF-16.

The reader is strict: a surrogate without its partner and a byte without its partner are
refused.

Owns: `ByteOrder` and `Utf16.decode?`.

Does not own: byte-order marks (see `PhoneAccounts.Yaml.Charset`).
-/

namespace PhoneAccounts.Text.Utf16

/-- Which byte of a pair comes first. -/
inductive ByteOrder where
  | lowFirst
  | highFirst
deriving DecidableEq, Repr

/-- The unit that two bytes make. -/
def ByteOrder.unit (order : ByteOrder) (first second : UInt8) : Nat :=
  match order with
  | .lowFirst => first.toNat + second.toNat * 256
  | .highFirst => first.toNat * 256 + second.toNat

def units? (order : ByteOrder) : List UInt8 → Option (List Nat)
  | [] => some []
  | [_] => none
  | first :: second :: rest => (units? order rest).map (order.unit first second :: ·)

def isLead (unit : Nat) : Bool := 0xD800 ≤ unit && unit < 0xDC00

def isTrail (unit : Nat) : Bool := 0xDC00 ≤ unit && unit < 0xE000

def charsOfUnits? : List Nat → Option (List Char)
  | [] => some []
  | [unit] => if isLead unit || isTrail unit then none else some [Char.ofNat unit]
  | unit :: next :: rest =>
      if isTrail unit then none
      else if isLead unit then
        if isTrail next then
          (charsOfUnits? rest).map
            (Char.ofNat (0x10000 + (unit - 0xD800) * 1024 + (next - 0xDC00)) :: ·)
        else none
      else (charsOfUnits? (next :: rest)).map (Char.ofNat unit :: ·)

def decode? (order : ByteOrder) (bytes : List UInt8) : Option (List Char) := do
  charsOfUnits? (← units? order bytes)

example : decode? .lowFirst [0x61, 0x00, 0x3D, 0xD8, 0x00, 0xDE] = some ['a', '😀'] := by
  decide +kernel

end PhoneAccounts.Text.Utf16

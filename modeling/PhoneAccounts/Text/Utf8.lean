/-!
Contract: text as UTF-8 bytes, in both directions.

The reader is strict: it refuses longer forms than needed, surrogates, values above the
last code point, and sequences that break off.

Owns: `Utf8.encode` and `Utf8.decode?`.

Does not own: byte-order marks (see `PhoneAccounts.Yaml.Charset`).
-/

namespace PhoneAccounts.Text.Utf8

/-- A byte that continues a character, with its lowest six bits from the value. -/
def continuation (value : Nat) : UInt8 :=
  UInt8.ofNat (0x80 + value % 64)

def encodeChar (char : Char) : List UInt8 :=
  let code := char.toNat
  if code < 0x80 then [UInt8.ofNat code]
  else if code < 0x800 then [UInt8.ofNat (0xC0 + code / 64), continuation code]
  else if code < 0x10000 then
    [UInt8.ofNat (0xE0 + code / 4096), continuation (code / 64), continuation code]
  else
    [UInt8.ofNat (0xF0 + code / 262144), continuation (code / 4096),
      continuation (code / 64), continuation code]

def encode (chars : List Char) : List UInt8 :=
  chars.flatMap encodeChar

/-- The six bits of a byte that continues a character. -/
def tail? (byte : UInt8) : Option Nat :=
  if 0x80 ≤ byte.toNat ∧ byte.toNat < 0xC0 then some (byte.toNat - 0x80) else none

/-- The character of a code point that needs at least `least` and is no surrogate. -/
def charFrom? (least code : Nat) : Option Char :=
  if least ≤ code ∧ code.isValidChar then some (Char.ofNat code) else none

def decode? : List UInt8 → Option (List Char)
  | [] => some []
  | first :: rest =>
      if first.toNat < 0x80 then
        (decode? rest).map (Char.ofNat first.toNat :: ·)
      else if first.toNat < 0xC0 then none
      else if first.toNat < 0xE0 then
        match rest with
        | second :: rest => do
            let char ← charFrom? 0x80 ((first.toNat - 0xC0) * 64 + (← tail? second))
            (decode? rest).map (char :: ·)
        | _ => none
      else if first.toNat < 0xF0 then
        match rest with
        | second :: third :: rest => do
            let char ← charFrom? 0x800
              (((first.toNat - 0xE0) * 64 + (← tail? second)) * 64 + (← tail? third))
            (decode? rest).map (char :: ·)
        | _ => none
      else if first.toNat < 0xF8 then
        match rest with
        | second :: third :: fourth :: rest => do
            let char ← charFrom? 0x10000
              ((((first.toNat - 0xF0) * 64 + (← tail? second)) * 64 + (← tail? third)) * 64 +
                (← tail? fourth))
            (decode? rest).map (char :: ·)
        | _ => none
      else none

example : decode? (encode "aé日😀".toList) = some "aé日😀".toList := by decide +kernel

example : decode? [0xC0, 0x80] = none := by decide

example : decode? [0xED, 0xA0, 0x80] = none := by decide

end PhoneAccounts.Text.Utf8

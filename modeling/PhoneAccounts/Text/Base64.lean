/-!
Contract: bytes as base64 text.

Three bytes are written as four characters of the standard alphabet, and a shorter
last group is filled up with equals signs.  Two readers share the alphabet: the
strict one refuses everything outside it, the lenient one skips it.

Owns: the alphabet, `encode`, `decodeStrict?` and `decodeLenient?`.

Does not own: which fields hold base64 text, or their error messages.
-/

namespace PhoneAccounts.Text.Base64

/-- The character that fills up a short last group. -/
def padding : Char := '='

/-- Character of a six-bit group; larger values are taken modulo 64. -/
def alphabet (sextet : Nat) : Char :=
  let sextet := sextet % 64
  if sextet < 26 then Char.ofNat ('A'.toNat + sextet)
  else if sextet < 52 then Char.ofNat ('a'.toNat + (sextet - 26))
  else if sextet < 62 then Char.ofNat ('0'.toNat + (sextet - 52))
  else if sextet = 62 then '+'
  else '/'

/-- Six-bit group written by a character of the alphabet. -/
def sextet? (char : Char) : Option Nat :=
  if 'A' ≤ char ∧ char ≤ 'Z' then some (char.toNat - 'A'.toNat)
  else if 'a' ≤ char ∧ char ≤ 'z' then some (char.toNat - 'a'.toNat + 26)
  else if '0' ≤ char ∧ char ≤ '9' then some (char.toNat - '0'.toNat + 52)
  else if char = '+' then some 62
  else if char = '/' then some 63
  else none

/-- Groups of three bytes, each as four characters. -/
def encode : List UInt8 → List Char
  | [] => []
  | [a] =>
      [alphabet (a.toNat / 4), alphabet (a.toNat % 4 * 16), padding, padding]
  | [a, b] =>
      [alphabet (a.toNat / 4), alphabet (a.toNat % 4 * 16 + b.toNat / 16),
        alphabet (b.toNat % 16 * 4), padding]
  | a :: b :: c :: rest =>
      alphabet (a.toNat / 4) ::
      alphabet (a.toNat % 4 * 16 + b.toNat / 16) ::
      alphabet (b.toNat % 16 * 4 + c.toNat / 64) ::
      alphabet (c.toNat % 64) ::
      encode rest

/-- Bytes of a list of sextets; a last group of two or three gives one or two bytes,
and the bits left over are dropped. -/
def bytesOfSextets : List Nat → List UInt8
  | a :: b :: c :: d :: rest =>
      UInt8.ofNat (a * 4 + b / 16) ::
      UInt8.ofNat (b % 16 * 16 + c / 4) ::
      UInt8.ofNat (c % 4 * 64 + d) ::
      bytesOfSextets rest
  | [a, b, c] => [UInt8.ofNat (a * 4 + b / 16), UInt8.ofNat (b % 16 * 16 + c / 4)]
  | [a, b] => [UInt8.ofNat (a * 4 + b / 16)]
  | _ => []

/-- How much padding may follow a number of sextets: none after a lone sextet, exactly
what fills a short last group, and any amount after complete groups, provided there is one. -/
def paddingFits (sextets pads : Nat) : Bool :=
  match sextets % 4 with
  | 0 => sextets != 0 || pads == 0
  | 2 => pads == 2
  | 3 => pads == 1
  | _ => false

/-- Bytes of a text that holds nothing but sextets and then padding. -/
def decodeStrict? (chars : List Char) : Option (List UInt8) := do
  let body := chars.takeWhile (· ≠ padding)
  let pads := chars.dropWhile (· ≠ padding)
  let sextets ← body.mapM sextet?
  if pads.all (· = padding) ∧ paddingFits sextets.length pads.length then
    some (bytesOfSextets sextets)
  else none

/-- Sextets up to the padding that completes a group; other characters are skipped, and
padding that completes nothing is skipped too.  `pads` counts the padding since the last
sextet, `sextets` holds those read so far, last one first. -/
def sextetsLenient? (pads : Nat) (sextets : List Nat) : List Char → Option (List Nat)
  | [] => if sextets.length % 4 = 0 then some sextets.reverse else none
  | char :: rest =>
      if char = padding then
        let filled := sextets.length % 4
        if 2 ≤ filled then
          if 4 ≤ filled + (pads + 1) then some sextets.reverse
          else sextetsLenient? (pads + 1) sextets rest
        else sextetsLenient? pads sextets rest
      else
        match sextet? char with
        | some sextet => sextetsLenient? 0 (sextet :: sextets) rest
        | none => sextetsLenient? pads sextets rest

/-- Bytes of a text in which characters outside the alphabet mean nothing. -/
def decodeLenient? (chars : List Char) : Option (List UInt8) :=
  (sextetsLenient? 0 [] chars).map bytesOfSextets

example : encode [104, 101, 108, 108, 111] = "aGVsbG8=".toList := by decide

example : decodeStrict? "aGVsbG8=".toList = some [104, 101, 108, 108, 111] := by decide

example : decodeStrict? "aGVs bG8=".toList = none := by decide

example : decodeLenient? "aGVs bG8=".toList = some [104, 101, 108, 108, 111] := by decide

end PhoneAccounts.Text.Base64

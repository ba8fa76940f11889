import PhoneAccounts.Text.Numeral
import PhoneAccounts.Text.Printable

/-!
Contract: how a text or a byte sequence is shown inside a message.

A quoted text stands between apostrophes, or between double quotes when it holds
an apostrophe and no double quote.  The backslash, the surrounding quote, the
common control characters and everything non-printable are escaped.

Owns: `quoteText` and `quoteBytes`.

Does not own: the spelling of other values (see `PhoneAccounts.Tree.Display`) or
the quoting of the markup (see `PhoneAccounts.Yaml.Layout.Scalar`).
-/

namespace PhoneAccounts.Text

def apostrophe : Char := '\x27'

def doubleQuote : Char := '\x22'

def backslash : Char := '\x5C'

/-- The quote that needs fewer escapes; an apostrophe when both need the same. -/
def quoteFor (holdsApostrophe holdsDoubleQuote : Bool) : Char :=
  if holdsApostrophe && !holdsDoubleQuote then doubleQuote else apostrophe

/-- The escape of a code point, by the shortest of the three widths. -/
def escapeCode (code : Nat) : List Char :=
  if code ≤ 0xFF then backslash :: 'x' :: LetterCase.lower.hexText 2 code
  else if code ≤ 0xFFFF then backslash :: 'u' :: LetterCase.lower.hexText 4 code
  else backslash :: 'U' :: LetterCase.lower.hexText 8 code

def quoteChar (quote char : Char) : List Char :=
  if char = quote ∨ char = backslash then [backslash, char]
  else if char = '\n' then [backslash, 'n']
  else if char = '\r' then [backslash, 'r']
  else if char = '\t' then [backslash, 't']
  else if isPrintable char then [char]
  else escapeCode char.toNat

def quoteText (chars : List Char) : List Char :=
  let quote := quoteFor (chars.contains apostrophe) (chars.contains doubleQuote)
  quote :: chars.flatMap (quoteChar quote) ++ [quote]

/-- One byte between the given quotes; only the printable ASCII block is shown as itself. -/
def quoteByte (quote : Char) (byte : UInt8) : List Char :=
  if byte.toNat < 0x7F then quoteChar quote (Char.ofNat byte.toNat)
  else escapeCode byte.toNat

/-- A byte sequence: the letter `b` and then the bytes between quotes. -/
def quoteBytes (bytes : List UInt8) : List Char :=
  let quote := quoteFor
    (bytes.any fun byte => byte.toNat == apostrophe.toNat)
    (bytes.any fun byte => byte.toNat == doubleQuote.toNat)
  'b' :: quote :: bytes.flatMap (quoteByte quote) ++ [quote]

end PhoneAccounts.Text

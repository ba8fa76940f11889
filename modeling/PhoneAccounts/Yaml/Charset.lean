import PhoneAccounts.Text.Utf16
import PhoneAccounts.Text.Utf8
import PhoneAccounts.Yaml.Fault

/-!
Contract: the characters that a document may hold, and how they are stored.

A document is UTF-8, or UTF-16 if it begins with a byte-order mark of that encoding.  Of
the control characters it may hold the tabulator and the line breaks only.

Owns: `documentChars?`, the line breaks, and `endMark`, the character that stands for the
end of the text because no document can hold it.

Does not own: what the characters mean.
-/

namespace PhoneAccounts.Yaml

open PhoneAccounts.Text

/-- Stands for the end of the text. -/
def endMark : Char := '\x00'

def byteOrderMark : Char := '\uFEFF'

def isAllowed (char : Char) : Bool :=
  let code := char.toNat
  code == 0x09 || code == 0x0A || code == 0x0D || (0x20 ≤ code && code ≤ 0x7E) ||
    code == 0x85 || (0xA0 ≤ code && code ≤ 0xD7FF) || (0xE000 ≤ code && code ≤ 0xFFFD) ||
    0x10000 ≤ code

def isBreak (char : Char) : Bool :=
  char == '\n' || char == '\r' || char == '\x85' || char == '\u2028' || char == '\u2029'

def isBreakOrEnd (char : Char) : Bool :=
  char == endMark || isBreak char

/-- A space, or the end of a line or of the text. -/
def isSpaceOrEnd (char : Char) : Bool :=
  char == ' ' || isBreakOrEnd char

/-- A space or a tabulator, or the end of a line or of the text. -/
def isBlankOrEnd (char : Char) : Bool :=
  char == '\t' || isSpaceOrEnd char

def allowedChars? (chars : List Char) : Except Fault (List Char) :=
  if chars.all isAllowed then .ok chars else .error .unparseable

def decodeBytes? (bytes : List UInt8) : Option (List Char) :=
  match bytes with
  | 0xFF :: 0xFE :: _ => Utf16.decode? .lowFirst bytes
  | 0xFE :: 0xFF :: _ => Utf16.decode? .highFirst bytes
  | _ => Utf8.decode? bytes

def documentChars? (bytes : List UInt8) : Except Fault (List Char) :=
  match decodeBytes? bytes with
  | none => .error .unparseable
  | some chars => allowedChars? chars

end PhoneAccounts.Yaml

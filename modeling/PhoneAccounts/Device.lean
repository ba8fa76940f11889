import PhoneAccounts.Device.Installs
import PhoneAccounts.Device.ScopeDirectory
import PhoneAccounts.Device.Settings
import PhoneAccounts.Device.Subscriptions

/-!
Contract: the device around a registry.

Owns: `Device`.

Does not own: its parts, each of which has a module of its own.
-/

namespace PhoneAccounts

/-- The scopes, connection services, subscriptions, settings and files of a device. -/
structure Device where
  directory : ScopeDirectory
  installs : Installs
  subscriptions : Subscriptions
  settings : Settings
  files : Entry

namespace Device

/-- A connection service answers for the component of a handle. -/
def resolves (device : Device) (handle : Handle) : Bool :=
  !(device.installs.resolve handle.component handle.scope).isEmpty

end Device

end PhoneAccounts

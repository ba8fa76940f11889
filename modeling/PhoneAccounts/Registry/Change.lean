import PhoneAccounts.Catalog.Edit
import PhoneAccounts.Listener.Event
import PhoneAccounts.Registry.Outcome
import PhoneAccounts.Registry.Query

/-!
Contract: the six changes to a registry.

What a change does is decided from the catalog and the device before anything is touched:
either it is refused, or it has an effect.  An effect is then carried out as a whole: the
catalog is replaced, the default voice subscription set if the effect names one, and the
catalog saved.

Owns: `Change`, `Refusal`, `Effect`, `Registry.effectOf` and `Registry.commit`.

Does not own: telling the listeners (see `PhoneAccounts.Registry.Session`).
-/

namespace PhoneAccounts

/-- What can be asked of a registry. -/
inductive Change where
  | register (account : Account)
  | unregister (handle : Option Handle)
  | clear (package : String) (scope : Option Scope)
  | setEnabled (handle : Option Handle) (enabled : Bool)
  | setDefaultOutgoing (handle : Option Handle)
  | setCallManager (handle : Option Handle)
deriving DecidableEq, Repr

/-- Why a change is not carried out: the caller's component may not register accounts, or
the change does not fit the catalog. -/
inductive Refusal where
  | denied
  | rejected (reason : Rejection)
deriving DecidableEq, Repr

/-- The denial in words. -/
def Refusal.deniedMessage : String :=
  "Account connection service requires BIND_TELECOM_CONNECTION_SERVICE permission."

/-- What a change does: the new catalog, the new default voice subscription if it is set,
and the event that tells of it. -/
structure Effect where
  catalog : Catalog
  voice : Option Int := none
  event : Event
deriving DecidableEq, Repr

/-- The effect of new accounts. -/
def Effect.ofAccounts (catalog : Catalog) (accounts : List Account) : Effect :=
  { catalog := { catalog with accounts := accounts }, event := .accounts }

namespace Registry

/-- The account as it is stored: one that is there keeps its state, a new one is disabled,
and a SIM is always enabled. -/
def storedAs (catalog : Catalog) (account : Account) : Account :=
  account.withEnabled
    ((catalog.find? account.handle).any Account.enabled || account.isSim)

def registerEffect (registry : Registry) (device : Device) (account : Account) :
    Except Refusal Effect :=
  let catalog := registry.catalog
  if requiresBind device account.handle then
    .ok (.ofAccounts catalog (Accounts.put (storedAs catalog account) catalog.accounts))
  else .error .denied

def unregisterEffect (registry : Registry) (handle : Option Handle) : Except Refusal Effect :=
  let catalog := registry.catalog
  match registry.account? handle with
  | none => .error (.rejected (.removesUnknown handle))
  | some account => .ok (.ofAccounts catalog (Accounts.drop account.handle catalog.accounts))

def clearEffect (registry : Registry) (package : String) (scope : Option Scope) :
    Except Refusal Effect :=
  let catalog := registry.catalog
  if catalog.accounts.any (Accounts.isOwnedBy package scope) then
    .ok (.ofAccounts catalog (Accounts.clear package scope catalog.accounts))
  else .error (.rejected (.clearsNothing package scope))

def setEnabledEffect (registry : Registry) (handle : Option Handle) (enabled : Bool) :
    Except Refusal Effect :=
  let catalog := registry.catalog
  match registry.account? handle with
  | none => .error (.rejected (.switchesUnknown handle))
  | some account =>
      if account.isSim then .error (.rejected (.switchesSim account.handle))
      else if account.enabled = enabled then .error (.rejected .alreadySwitched)
      else
        .ok (.ofAccounts catalog
          (Accounts.put (account.withEnabled enabled) catalog.accounts))

/-- The effect of choosing the default for outgoing calls.  With a SIM its subscription, as
the caller sees it, becomes the one for calls. -/
def setDefaultOutgoingEffect
    (registry : Registry)
    (device : Device)
    (caller : Scope)
    (handle : Option Handle) :
    Except Refusal Effect :=
  let chosen : Catalog := { registry.catalog with defaultOutgoing := handle }
  match handle with
  | none => .ok { catalog := chosen, event := .defaultOutgoing }
  | some handle =>
      match registry.catalog.find? handle with
      | none => .error (.rejected (.defaultUnknown handle))
      | some account =>
          if account.has .callProvider then
            .ok {
              catalog := chosen
              voice :=
                if account.isSim then some (registry.subscriptionOf device caller (some handle))
                else none
              event := .defaultOutgoing }
          else .error (.rejected (.defaultCannotCall handle))

/-- The effect of choosing the account that manages connections.  Choosing none is recorded
as a choice. -/
def setCallManagerEffect (registry : Registry) (handle : Option Handle) :
    Except Refusal Effect :=
  let chosen (handle : Handle) : Effect :=
    { catalog := { registry.catalog with simCallManager := some handle }
      event := .simCallManager }
  match handle with
  | none => .ok (chosen Handle.noneSelected)
  | some handle =>
      match registry.catalog.find? handle with
      | none => .error (.rejected (.managerUnknown handle))
      | some account =>
          if account.has .connectionManager then .ok (chosen handle)
          else .error (.rejected (.managerCannotManage handle))

/-- What a change would do, asked for by a caller. -/
def effectOf (registry : Registry) (device : Device) (caller : Scope) :
    Change → Except Refusal Effect
  | .register account => registry.registerEffect device account
  | .unregister handle => registry.unregisterEffect handle
  | .clear package scope => registry.clearEffect package scope
  | .setEnabled handle enabled => registry.setEnabledEffect handle enabled
  | .setDefaultOutgoing handle => registry.setDefaultOutgoingEffect device caller handle
  | .setCallManager handle => registry.setCallManagerEffect handle

/-- The device with the default voice subscription that an effect names. -/
def applyVoice (device : Device) : Option Int → Device
  | none => device
  | some subscription =>
      { device with subscriptions := device.subscriptions.withDefaultVoice subscription }

/-- Registry and device after an effect has been carried out. -/
def commit (registry : Registry) (device : Device) (effect : Effect) : Registry × Device :=
  let registry := { registry with catalog := effect.catalog }
  (registry, registry.save (applyVoice device effect.voice))

end Registry

end PhoneAccounts

import PhoneAccounts.Registry.Basic

/-!
Contract: what a caller learns from the registry.

Every answer but the privileged look-up holds only accounts that the caller may see.

Owns: the look-ups, the list queries, and the choices that hold for a caller.

Does not own: changing any of it (see `PhoneAccounts.Registry.Change`).
-/

namespace PhoneAccounts.Registry

/-! ## Look-ups -/

/-- The account with a handle, whoever asks. -/
def account? (registry : Registry) (handle : Option Handle) : Option Account :=
  handle.bind registry.catalog.find?

def isVisible (registry : Registry) (device : Device) (caller : Scope) (account : Account) :
    Bool :=
  (registry.viewer caller).sees device.directory account

/-- The account with a handle, if the caller may see it. -/
def visibleAccount?
    (registry : Registry)
    (device : Device)
    (caller : Scope)
    (handle : Option Handle) :
    Option Account :=
  (registry.account? handle).filter (registry.isVisible device caller)

/-! ## List queries -/

/-- What a query asks of an account, apart from being visible and resolving. -/
structure Filter where
  mask : Int := 0
  scheme : Option String := none
  package : Option String := none
  includeDisabled : Bool := false
deriving DecidableEq, Repr

/-- The account is what the query asks for. -/
def Filter.accepts (filter : Filter) (account : Account) : Bool :=
  (account.enabled || filter.includeDisabled) &&
    (filter.mask = 0 || account.hasAll filter.mask) &&
    filter.scheme.all account.supports &&
    filter.package.all (account.handle.package = ·)

/-- The accounts that a query asks for, in order: those that resolve and that the caller may
see. -/
def query (registry : Registry) (device : Device) (caller : Scope) (filter : Filter) :
    List Account :=
  registry.catalog.accounts.filter fun account =>
    filter.accepts account && device.resolves account.handle &&
      registry.isVisible device caller account

def queryHandles (registry : Registry) (device : Device) (caller : Scope) (filter : Filter) :
    List Handle :=
  (registry.query device caller filter).map Account.handle

/-- All enabled accounts. -/
def allAccounts (registry : Registry) (device : Device) (caller : Scope) : List Account :=
  registry.query device caller {}

/-- Handles of all enabled accounts. -/
def allHandles (registry : Registry) (device : Device) (caller : Scope) : List Handle :=
  registry.queryHandles device caller {}

/-- Handles of the accounts that can place calls, with a scheme if one is given. -/
def callCapableHandles
    (registry : Registry)
    (device : Device)
    (caller : Scope)
    (scheme : Option String)
    (includeDisabled : Bool) :
    List Handle :=
  registry.queryHandles device caller {
    mask := Capability.callProvider.mask
    scheme := scheme
    includeDisabled := includeDisabled }

/-- Capabilities of an account that places calls through a SIM. -/
def simMask : Int := Capability.callProvider.mask + Capability.simSubscription.mask

/-- Handles of the accounts that place calls through a SIM. -/
def simHandles (registry : Registry) (device : Device) (caller : Scope) : List Handle :=
  registry.queryHandles device caller { mask := simMask }

def ownedHandles
    (registry : Registry)
    (device : Device)
    (caller : Scope)
    (package : Option String) :
    List Handle :=
  registry.queryHandles device caller { package := package }

/-- Handles of the accounts that manage connections, enabled or not. -/
def managerHandles (registry : Registry) (device : Device) (caller : Scope) : List Handle :=
  registry.queryHandles device caller {
    mask := Capability.connectionManager.mask
    includeDisabled := true }

/-! ## Subscriptions -/

/-- The subscription behind an account that the caller may see and that a SIM backs. -/
def subscriptionOf
    (registry : Registry)
    (device : Device)
    (caller : Scope)
    (handle : Option Handle) :
    Int :=
  match registry.visibleAccount? device caller handle with
  | some account =>
      if account.isSim then device.subscriptions.subscriptionOf account.handle
      else Subscriptions.invalid
  | none => Subscriptions.invalid

def isSmsAccount
    (registry : Registry)
    (device : Device)
    (caller : Scope)
    (handle : Option Handle) :
    Bool :=
  registry.subscriptionOf device caller handle = device.subscriptions.defaultSms

def isVoicemail
    (registry : Registry)
    (device : Device)
    (caller : Scope)
    (handle : Option Handle)
    (number : String) :
    Bool :=
  device.subscriptions.isVoicemail (registry.subscriptionOf device caller handle) number

/-! ## Choices -/

/-- The default for outgoing calls that the user chose, if the caller may see it. -/
def chosenOutgoing? (registry : Registry) (device : Device) (caller : Scope) : Option Handle :=
  if (registry.visibleAccount? device caller registry.catalog.defaultOutgoing).isSome then
    registry.catalog.defaultOutgoing
  else none

/-- The account for outgoing calls with a scheme: the chosen one if it supports the scheme,
else the only one that can place such calls. -/
def outgoingFor?
    (registry : Registry)
    (device : Device)
    (caller : Scope)
    (scheme : Option String) :
    Option Handle :=
  let chosen := registry.chosenOutgoing? device caller
  let fits := (registry.visibleAccount? device caller chosen).any fun account =>
    scheme.any account.supports
  if fits then chosen
  else
    match registry.callCapableHandles device caller scheme false with
    | [handle] => some handle
    | _ => none

/-- The component is installed for all scopes, or for the caller. -/
def isInstalledFor (device : Device) (caller : Scope) (component : Component) : Bool :=
  !(device.installs.resolve component none).isEmpty ||
    !(device.installs.resolve component (some caller)).isEmpty

/-- The first account of the component that the device is set to. -/
def usualManager? (registry : Registry) (device : Device) (caller : Scope) : Option Handle :=
  match Component.ofText? device.settings.defaultManager with
  | none => none
  | some component =>
      if isInstalledFor device caller component then
        (registry.allHandles device caller).find? fun handle => handle.component = component
      else none

/-- The account that manages connections: the chosen one if the caller may see it and it
resolves, else the one that the device is set to. -/
def callManager? (registry : Registry) (device : Device) (caller : Scope) : Option Handle :=
  let configured := registry.catalog.simCallManager
  if (registry.visibleAccount? device caller configured).isSome &&
      configured.any device.resolves then
    configured
  else registry.usualManager? device caller

/-! ## Permissions -/

/-- Every service that answers for the handle requires a bind permission, and one does. -/
def requiresBind (device : Device) (handle : Handle) : Bool :=
  let services := device.installs.resolve handle.component handle.scope
  !services.isEmpty && services.all Service.requiresBind

end PhoneAccounts.Registry

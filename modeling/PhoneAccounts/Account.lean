import PhoneAccounts.Capability
import PhoneAccounts.Handle

/-!
Contract: phone accounts and their icons.

Owns: `Icon`, `Account`, and the questions that an account alone can answer.

Does not own: who may see an account (see `PhoneAccounts.Visibility`).
-/

namespace PhoneAccounts

def Icon.noResource : Int := -1

def Icon.noTint : Int := 0

/-- An icon: an inline payload, or a reference to a resource of a package. -/
structure Icon where
  payload : Option (List UInt8) := none
  package : Option String := none
  resourceId : Int := Icon.noResource
  tint : Int := Icon.noTint
deriving DecidableEq, Repr, Inhabited

namespace Icon

/-- An inline payload. -/
def ofPayload (payload : List UInt8) : Icon :=
  { payload := some payload }

def ofResource (package : String) (resourceId tint : Int) : Icon :=
  { package := some package, resourceId := resourceId, tint := tint }

/-- The icon is a reference: it has no payload, and a package that is not empty. -/
def isResource (icon : Icon) : Bool :=
  icon.payload.isNone && icon.package.any (· != "")

end Icon

def Account.noHighlight : Int := 0

/-- An endpoint that calls can go through. -/
structure Account where
  handle : Handle
  label : Option String := none
  address : Option String := none
  subscriptionAddress : Option String := none
  capabilities : Int := 0
  icon : Option Icon := none
  highlightColor : Int := Account.noHighlight
  shortDescription : Option String := none
  schemes : List String := []
  enabled : Bool := false
deriving DecidableEq, Repr, Inhabited

namespace Account

/-- The account has every capability of the set. -/
def hasAll (account : Account) (mask : Int) : Bool :=
  Mask.covers account.capabilities mask

def has (account : Account) (capability : Capability) : Bool :=
  account.hasAll capability.mask

def knownCapabilities (account : Account) : List Capability :=
  Capability.all.filter account.has

def isSim (account : Account) : Bool :=
  account.has .simSubscription

/-- Calls with this scheme can go through the account; never so for an empty scheme. -/
def supports (account : Account) (scheme : String) : Bool :=
  scheme != "" && account.schemes.contains scheme

def withEnabled (account : Account) (enabled : Bool) : Account :=
  { account with enabled := enabled }

end Account

end PhoneAccounts

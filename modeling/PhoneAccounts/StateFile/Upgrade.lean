import PhoneAccounts.Account

/-!
Contract: stored accounts, and bringing those of older files up to date.

Each step belongs to the version that made it necessary and changes the accounts of all
files before that version.  The steps are taken in order.

Owns: `StoredAccount`, the upgrade steps, and the account that a stored one becomes.

Does not own: reading the fields of a stored account (see `PhoneAccounts.StateFile.Reading`).
-/

namespace PhoneAccounts

/-- The fields of an account as a file gives them. -/
structure StoredAccount where
  handle : Handle
  address : Option String := none
  subscriptionAddress : Option String := none
  capabilities : Int := 0
  iconPayload : Option (List UInt8) := none
  iconBitmap : Option (List UInt8) := none
  iconPackage : Option String := none
  iconResource : Int := Icon.noResource
  iconTint : Int := Icon.noTint
  highlightColor : Int := Account.noHighlight
  label : Option String := none
  shortDescription : Option String := none
  schemes : Option (List String) := none
  enabled : Bool := false
deriving DecidableEq, Repr

/-- Facts about the device that the upgrades need: the component of the older call service
over the internet, and whether that service takes all calls. -/
structure UpgradeContext where
  legacySip : Component
  sipForAllCalls : Bool := false
deriving DecidableEq, Repr

/-- A change that a version made necessary. -/
structure UpgradeStep where
  introducedIn : Int
  apply : UpgradeContext → StoredAccount → StoredAccount

namespace StoredAccount

/-! ## Schemes -/

def telephoneScheme : String := "tel"

def voicemailScheme : String := "voicemail"

def internetScheme : String := "sip"

/-- The schemes that a component could handle before accounts named them. -/
def impliedSchemes (context : UpgradeContext) (component : Component) : List String :=
  if component = context.legacySip then
    internetScheme :: if context.sipForAllCalls then [telephoneScheme] else []
  else [telephoneScheme, voicemailScheme]

def withImpliedSchemes (context : UpgradeContext) (stored : StoredAccount) : StoredAccount :=
  { stored with schemes := some (impliedSchemes context stored.handle.component) }

/-- Names the package of a resource icon: it is that of the component. -/
def withIconPackage (_ : UpgradeContext) (stored : StoredAccount) : StoredAccount :=
  if stored.iconBitmap.isNone then { stored with iconPackage := some stored.handle.package }
  else stored

/-! ## Upgrading -/

def upgradeSteps : List UpgradeStep :=
  [⟨2, withImpliedSchemes⟩, ⟨5, withIconPackage⟩]

/-- Takes a step if the version is older than it. -/
def takeStep
    (context : UpgradeContext)
    (version : Int)
    (stored : StoredAccount)
    (step : UpgradeStep) :
    StoredAccount :=
  if version < step.introducedIn then step.apply context stored else stored

/-- The account of a file of some version, brought up to date. -/
def upgrade (context : UpgradeContext) (version : Int) (stored : StoredAccount) :
    StoredAccount :=
  upgradeSteps.foldl (takeStep context version) stored

/-- The icon that the fields describe: an inline payload before a reference. -/
def icon? (stored : StoredAccount) : Option Icon :=
  match stored.iconPayload, stored.iconBitmap, stored.iconPackage with
  | some payload, _, _ => some (.ofPayload payload)
  | none, some bitmap, _ => some (.ofPayload bitmap)
  | none, none, some package =>
      if package = "" then none
      else some (.ofResource package stored.iconResource stored.iconTint)
  | none, none, none => none

def toAccount (stored : StoredAccount) : Account :=
  { handle := stored.handle
    label := stored.label
    address := stored.address
    subscriptionAddress := stored.subscriptionAddress
    capabilities := stored.capabilities
    icon := stored.icon?
    highlightColor := stored.highlightColor
    shortDescription := stored.shortDescription
    schemes := stored.schemes.getD []
    enabled := stored.enabled }

end StoredAccount

end PhoneAccounts

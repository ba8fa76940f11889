import PhoneAccounts.Mask

/-!
Contract: what a phone account can do.

Owns: the six capabilities, their bits, and their names.

Does not own: sets of capabilities, which are integers (see `PhoneAccounts.Mask`); a
stored set may hold bits without a meaning.
-/

namespace PhoneAccounts

/-- What a phone account can do. -/
inductive Capability where
  | connectionManager
  | callProvider
  | simSubscription
  | videoCalling
  | placeEmergencyCalls
  | multiUser
deriving DecidableEq, Repr

namespace Capability

/-- The set that holds this capability alone. -/
def mask : Capability → Int
  | .connectionManager => 0x1
  | .callProvider => 0x2
  | .simSubscription => 0x4
  | .videoCalling => 0x8
  | .placeEmergencyCalls => 0x10
  | .multiUser => 0x20

def name : Capability → String
  | .connectionManager => "CONNECTION_MANAGER"
  | .callProvider => "CALL_PROVIDER"
  | .simSubscription => "SIM_SUBSCRIPTION"
  | .videoCalling => "VIDEO_CALLING"
  | .placeEmergencyCalls => "PLACE_EMERGENCY_CALLS"
  | .multiUser => "MULTI_USER"

def all : List Capability :=
  [.connectionManager, .callProvider, .simSubscription, .videoCalling,
    .placeEmergencyCalls, .multiUser]

end Capability

end PhoneAccounts

/-!
Contract: the events that listeners hear of.

Owns: `Event` and its names.

Does not own: who hears of an event (see `PhoneAccounts.Listener.Bus`).
-/

namespace PhoneAccounts

/-- What has changed. -/
inductive Event where
  | accounts
  | defaultOutgoing
  | simCallManager
deriving DecidableEq, Repr

namespace Event

/-- Name of the event. -/
def name : Event → String
  | .accounts => "accounts"
  | .defaultOutgoing => "default_outgoing"
  | .simCallManager => "sim_call_manager"

def all : List Event := [.accounts, .defaultOutgoing, .simCallManager]

end Event

end PhoneAccounts

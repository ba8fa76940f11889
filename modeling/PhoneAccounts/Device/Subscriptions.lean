import PhoneAccounts.Handle
import PhoneAccounts.Keyed

/-!
Contract: the subscriptions of a device and its default subscriptions.

Owns: `Subscriptions`, and the number that stands for no subscription.

Does not own: which accounts are backed by a subscription (see `PhoneAccounts.Account`).
-/

namespace PhoneAccounts

/-- Which subscription backs which account, the voicemail numbers of each, and the two
defaults. -/
structure Subscriptions where
  assigned : Keyed Handle Int
  voicemail : List (Int × String)
  defaultVoice : Int
  defaultSms : Int
deriving DecidableEq, Repr

namespace Subscriptions

/-- Number that stands for no subscription. -/
def invalid : Int := -1

def none : Subscriptions := ⟨[], [], invalid, invalid⟩

def assign (subscriptions : Subscriptions) (handle : Handle) (subscription : Int) :
    Subscriptions :=
  { subscriptions with assigned := subscriptions.assigned.put handle subscription }

def addVoicemail (subscriptions : Subscriptions) (subscription : Int) (number : String) :
    Subscriptions :=
  { subscriptions with voicemail := (subscription, number) :: subscriptions.voicemail }

def withDefaultVoice (subscriptions : Subscriptions) (subscription : Int) : Subscriptions :=
  { subscriptions with defaultVoice := subscription }

def withDefaultSms (subscriptions : Subscriptions) (subscription : Int) : Subscriptions :=
  { subscriptions with defaultSms := subscription }

/-- The subscription behind an account, or the number that stands for none. -/
def subscriptionOf (subscriptions : Subscriptions) (handle : Handle) : Int :=
  (subscriptions.assigned.valueOf? handle).getD invalid

def isVoicemail (subscriptions : Subscriptions) (subscription : Int) (number : String) : Bool :=
  subscriptions.voicemail.contains (subscription, number)

end Subscriptions

end PhoneAccounts

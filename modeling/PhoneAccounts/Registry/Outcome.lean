import PhoneAccounts.Handle

/-!
Contract: what becomes of a change that may be refused.

Owns: `Rejection` with its wording, and `Outcome`.

Does not own: the conditions under which a change is refused (see
`PhoneAccounts.Registry.Change`).
-/

namespace PhoneAccounts

/-- Why a change was refused. -/
inductive Rejection where
  | removesUnknown (handle : Option Handle)
  | clearsNothing (package : String) (scope : Option Scope)
  | switchesUnknown (handle : Option Handle)
  | switchesSim (handle : Handle)
  | alreadySwitched
  | defaultUnknown (handle : Handle)
  | defaultCannotCall (handle : Handle)
  | managerUnknown (handle : Handle)
  | managerCannotManage (handle : Handle)
  | stated (reason : String)
deriving DecidableEq, Repr

/-- The reason in words. -/
def Rejection.message : Rejection → String
  | .removesUnknown handle => "unregister: unknown account " ++ Handle.describe? handle
  | .clearsNothing package scope =>
      "clear_by_owner: no accounts for " ++ package ++ " in " ++ Scope.describe? scope
  | .switchesUnknown handle => "set_enabled: unknown account " ++ Handle.describe? handle
  | .switchesSim handle => "set_enabled: " ++ handle.describe ++ " is a SIM subscription"
  | .alreadySwitched => "enabled state unchanged"
  | .defaultUnknown handle =>
      "Trying to set nonexistent default outgoing " ++ handle.describe
  | .defaultCannotCall handle =>
      "Trying to set non-call-provider default outgoing " ++ handle.describe
  | .managerUnknown handle => "set_sim_call_manager: nonexistent " ++ handle.describe
  | .managerCannotManage handle =>
      "set_sim_call_manager: not a call manager " ++ handle.describe
  | .stated reason => reason

/-- The reason can be put into words: the scopes in it can. -/
def Rejection.isWritable : Rejection → Bool
  | .removesUnknown handle => handle.all Handle.isWritable
  | .clearsNothing _ scope => scope.all Scope.isWritable
  | .switchesUnknown handle => handle.all Handle.isWritable
  | .switchesSim handle => handle.isWritable
  | .alreadySwitched => true
  | .defaultUnknown handle => handle.isWritable
  | .defaultCannotCall handle => handle.isWritable
  | .managerUnknown handle => handle.isWritable
  | .managerCannotManage handle => handle.isWritable
  | .stated _ => true

/-- A change was carried out, or refused for a reason. -/
inductive Outcome where
  | applied
  | rejected (reason : Rejection)
deriving DecidableEq, Repr

namespace Outcome

/-- The change was carried out. -/
def isApplied : Outcome → Bool
  | .applied => true
  | .rejected _ => false

/-- The reason of a refusal in words; nothing when the change was carried out. -/
def reason : Outcome → String
  | .applied => ""
  | .rejected reason => reason.message

end Outcome

end PhoneAccounts

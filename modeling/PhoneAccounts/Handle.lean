import PhoneAccounts.Component
import PhoneAccounts.Scope

/-!
Contract: handles, the identity of accounts.

Owns: `Handle`, the handle that stands for an explicit choice of no account, and the
text of a handle.

Does not own: how a handle is stored (see `PhoneAccounts.StateFile`).
-/

namespace PhoneAccounts

/-- The component that provides an account, the account's name within it, and the scope
that owns the account. -/
structure Handle where
  component : Component
  id : String
  scope : Option Scope := none
deriving DecidableEq, Repr, Inhabited

namespace Handle

/-- The handle that records an explicit choice of no account. -/
def noneSelected : Handle :=
  ⟨⟨"null", "null"⟩, "NO_ACCOUNT_SELECTED", none⟩

/-- The handle records an explicit choice of no account, in whatever scope. -/
def isNoneSelected (handle : Handle) : Bool :=
  handle.component = noneSelected.component ∧ handle.id = noneSelected.id

def withScope (handle : Handle) (scope : Option Scope) : Handle :=
  { handle with scope := scope }

def package (handle : Handle) : String :=
  handle.component.package

def describe (handle : Handle) : String :=
  handle.component.describe ++ ", " ++ handle.id ++ ", " ++ Scope.describe? handle.scope

/-- The handle can be put into words. -/
def isWritable (handle : Handle) : Bool :=
  handle.scope.all Scope.isWritable

def describe? : Option Handle → String
  | none => "None"
  | some handle => handle.describe

end Handle

end PhoneAccounts

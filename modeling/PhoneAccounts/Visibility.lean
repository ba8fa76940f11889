import PhoneAccounts.Account
import PhoneAccounts.Device.ScopeDirectory

/-!
Contract: who may see which account.

Three scopes decide: the one in the foreground of the device, the one that owns the
account, and the one that asks.  An account of another user is never visible; the owner
of the device sees also the profiles of the user in the foreground.

Owns: `Viewer` and `Viewer.sees`.

Does not own: what is done with the accounts that are visible (see
`PhoneAccounts.Registry.Query`).
-/

namespace PhoneAccounts

/-- The scope in the foreground, if it is known, and the scope that asks. -/
structure Viewer where
  foreground : Option Scope
  caller : Scope
deriving DecidableEq, Repr

namespace Viewer

/-- The viewer may see what this scope owns. -/
def seesScope (directory : ScopeDirectory) (viewer : Viewer) (owner : Scope) : Bool :=
  match viewer.foreground with
  | none => true
  | some foreground =>
      owner = viewer.caller ||
        (viewer.caller.isOwner && (directory.profilesOf foreground).contains owner)

/-- The viewer may see the account: one for all users, or one of a scope that the viewer
may see.  An account that no scope owns stays hidden. -/
def sees (directory : ScopeDirectory) (viewer : Viewer) (account : Account) : Bool :=
  account.has .multiUser ||
    match account.handle.scope with
    | none => false
    | some owner => viewer.seesScope directory owner

end Viewer

end PhoneAccounts

import PhoneAccounts.Account

/-!
Contract: the catalog of accounts that is kept and stored as one whole.

Owns: `Catalog`, the current schema version, and looking up an account.

Does not own: changing a catalog (see `PhoneAccounts.Catalog.Edit`) or storing one (see
`PhoneAccounts.StateFile`).
-/

namespace PhoneAccounts

/-- The version that is written. -/
def currentVersion : Int := 5

/-- All accounts in order, and the two choices among them.  A choice may name an account
that is not there. -/
structure Catalog where
  defaultOutgoing : Option Handle := none
  simCallManager : Option Handle := none
  accounts : List Account := []
  version : Int := currentVersion
deriving DecidableEq, Repr, Inhabited

namespace Catalog

/-- The first account with this handle. -/
def find? (catalog : Catalog) (handle : Handle) : Option Account :=
  catalog.accounts.find? fun account => account.handle = handle

def empty : Catalog := {}

end Catalog

end PhoneAccounts

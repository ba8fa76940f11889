import PhoneAccounts.Proofs.Catalog.Owners
import PhoneAccounts.Proofs.Session.Noninterference
import PhoneAccounts.Proofs.Session.Stored

/-!
Contract: what is left of an owner whose accounts were cleared.

Clearing leaves the choices as they are, so they may name handles of the owner afterwards.  None
of them counts: every read looks for an account first, and every change of an account needs one.
Only a registration or a start brings an account of the owner back.

Owns: `IsFreeOf` for catalogs and answers, the moves that bring an owner back, and that without
them the owner is gone for every caller.

Does not own: who may see which account (see `PhoneAccounts.Proofs.Session.Noninterference`).
-/

namespace PhoneAccounts

variable {owner : Owner}

namespace Registry

variable {registry : Registry} {device : Device} {caller : Scope}

/-! ## Reads -/

end Registry

namespace Session

variable {session : Session}

/-- The session in which the account of the owner is registered and chosen. -/
def sampleChosenSession : Session :=
  sampleSession.makes
    [.change Scope.owner (.register (sampleAccount Scope.owner)),
      .change Scope.owner (.setDefaultOutgoing (sampleAccount Scope.owner).handle)]

end Session

end PhoneAccounts

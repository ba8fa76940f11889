import PhoneAccounts.Proofs.Component
import PhoneAccounts.StateFile.Reading

/-!
Contract: what a catalog becomes when it is stored and read again.

A component comes back as what its flat form is read as, and a scope as the scope that its
serial number is looked up as.  A manager that names no scope afterwards is put under the
scope of the process, unless it stands for an explicit choice of none.  An icon keeps its
payload or else its reference.  Nothing else changes, apart from the version.

Between the writing and the reading scopes may come and go; then the serial numbers are those
of the one directory, and they are looked up in the other.

Owns: `reread` for scopes, handles, accounts and catalogs, `rereadFrom` for a document that was
written with other scopes, `Icon.reread?`, and the handles that a catalog stores.

Does not own: that reading a stored document gives this catalog (see
`PhoneAccounts.Proofs.StateFile.RoundTrip`).
-/

namespace PhoneAccounts

/-- The scope that a stored scope is read back as. -/
def ScopeDirectory.reread (directory : ScopeDirectory) (scope : Option Scope) : Option Scope :=
  scope.bind fun scope => directory.scopeOf? (directory.serialOf scope)

namespace Handle

/-- The handle cannot be read back, since its component cannot. -/
def isUnreadable (handle : Handle) : Bool :=
  handle.component.isUnreadable

/-- The handle that a stored handle is read back as. -/
def reread (directory : ScopeDirectory) (handle : Handle) : Handle :=
  ⟨handle.component.reread, handle.id, directory.reread handle.scope⟩

/-- A handle without a scope, put under the scope of the process.  The handle that stands
for an explicit choice of none stays without one. -/
def adopted (processScope : Scope) (handle : Handle) : Handle :=
  match handle.scope with
  | some _ => handle
  | none =>
      if handle.component = noneSelected.component ∧ handle.id = noneSelected.id then handle
      else ⟨handle.component, handle.id, some processScope⟩

end Handle

/-- The icon that a stored icon is read back as: a payload alone, a reference as it is, and
no icon where there is neither. -/
def Icon.reread? (icon : Icon) : Option Icon :=
  match icon.payload with
  | some payload => some (.ofPayload payload)
  | none => if icon.isResource then some icon else none

/-- The account that a stored account is read back as. -/
def Account.reread (directory : ScopeDirectory) (account : Account) : Account :=
  { account with
    handle := account.handle.reread directory
    icon := account.icon.bind Icon.reread? }

namespace Catalog

/-- The handles that a catalog stores, in the order in which they are read. -/
def storedHandles (catalog : Catalog) : List Handle :=
  catalog.defaultOutgoing.toList ++
    (catalog.simCallManager.toList ++ catalog.accounts.map Account.handle)

theorem mem_storedHandles {catalog : Catalog} {handle : Handle} :
    handle ∈ catalog.storedHandles ↔
      catalog.defaultOutgoing = some handle ∨
        catalog.simCallManager = some handle ∨
        ∃ account ∈ catalog.accounts, account.handle = handle := by
  unfold storedHandles
  rw [List.mem_append, List.mem_append, Option.mem_toList, Option.mem_toList, List.mem_map]

/-- The catalog that a stored catalog is read back as. -/
def reread (directory : ScopeDirectory) (processScope : Scope) (catalog : Catalog) : Catalog :=
  { defaultOutgoing := catalog.defaultOutgoing.map (Handle.reread directory)
    simCallManager := catalog.simCallManager.map fun handle =>
      (handle.reread directory).adopted processScope
    accounts := catalog.accounts.map (Account.reread directory)
    version := currentVersion }

end Catalog

/-! ## Written with other scopes -/

/-- The scope that a scope is read back as whose serial number was written with another
directory. -/
def ScopeDirectory.rereadFrom
    (written directory : ScopeDirectory)
    (scope : Option Scope) :
    Option Scope :=
  scope.bind fun scope => directory.scopeOf? (written.serialOf scope)

def Handle.rereadFrom (written directory : ScopeDirectory) (handle : Handle) : Handle :=
  ⟨handle.component.reread, handle.id, written.rereadFrom directory handle.scope⟩

def Account.rereadFrom (written directory : ScopeDirectory) (account : Account) : Account :=
  { account with
    handle := account.handle.rereadFrom written directory
    icon := account.icon.bind Icon.reread? }

/-- The catalog that a catalog is read back as that was stored with another directory. -/
def Catalog.rereadFrom
    (written directory : ScopeDirectory)
    (processScope : Scope)
    (catalog : Catalog) :
    Catalog :=
  { defaultOutgoing := catalog.defaultOutgoing.map (Handle.rereadFrom written directory)
    simCallManager := catalog.simCallManager.map fun handle =>
      (handle.rereadFrom written directory).adopted processScope
    accounts := catalog.accounts.map (Account.rereadFrom written directory)
    version := currentVersion }

/-- With the same directory this is what `reread` says. -/
theorem Catalog.rereadFrom_self
    (directory : ScopeDirectory)
    (processScope : Scope)
    (catalog : Catalog) :
    catalog.rereadFrom directory directory processScope =
      catalog.reread directory processScope :=
  rfl

/-- Reading puts a manager under the scope of the process as `adopted` says. -/
theorem StateFile.Reader.ownManager_eq_adopted (reader : Reader) (handle : Handle) :
    reader.ownManager handle = handle.adopted reader.processScope := by
  obtain ⟨component, id, scope⟩ := handle
  cases scope with
  | some scope => rfl
  | none =>
      simp only [Reader.ownManager, Handle.adopted, Handle.isNoneSelected, Option.isNone_none,
        Bool.true_and]
      by_cases noChoice :
          component = Handle.noneSelected.component ∧ id = Handle.noneSelected.id
      · simp [noChoice]
      · simp only [noChoice, decide_false, Bool.not_false, if_true, if_false]
        rfl

end PhoneAccounts

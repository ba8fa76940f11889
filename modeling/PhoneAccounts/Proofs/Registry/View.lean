import PhoneAccounts.Proofs.Catalog.Entries
import PhoneAccounts.Registry.Query

/-!
Contract: the part of a catalog that a caller may know of.

A look-up searches all accounts and hides what it finds, so it says more than the view does
wherever a hidden account stands in front of a visible one with its handle.  With unique
handles this cannot be, and then every read is a function of the view.

Owns: `InView`, `View`, `Registry.view`, and the reads in terms of the view.

Does not own: that handles are unique (see `PhoneAccounts.Proofs.Session.OrderedMap`).
-/

namespace PhoneAccounts

/-- The caller may know of the account: it is for all users, or the caller's own, or the
caller is the owner of the device and the account belongs to the user in the foreground or
to a profile of that user. -/
def Account.InView
    (directory : ScopeDirectory)
    (foreground caller : Scope)
    (account : Account) :
    Prop :=
  account.has .multiUser = true ∨
    account.handle.scope = some caller ∨
    (caller = Scope.owner ∧
      ∃ scope ∈ directory.profilesOf foreground, account.handle.scope = some scope)

instance (directory : ScopeDirectory) (foreground caller : Scope) (account : Account) :
    Decidable (account.InView directory foreground caller) := by
  unfold Account.InView
  infer_instance

/-- What a caller may know of a catalog: accounts in order, and the choices among them. -/
structure View where
  accounts : List Account
  defaultOutgoing : Option Handle
  simCallManager : Option Handle
deriving DecidableEq, Repr

/-- The handle is that of an account of the view. -/
def View.names (view : View) (handle : Handle) : Bool :=
  handle ∈ view.accounts.map Account.handle

namespace Registry

variable (registry : Registry) (device : Device) (caller : Scope)

/-- The accounts that a caller may know of, in order. -/
def accountsInView : List Account :=
  registry.catalog.accounts.filter fun account =>
    account.InView device.directory registry.foreground caller

/-- The view of a caller: choices of other accounts are left out. -/
def view : View where
  accounts := registry.accountsInView device caller
  defaultOutgoing := registry.catalog.defaultOutgoing.filter fun handle =>
    handle ∈ (registry.accountsInView device caller).map Account.handle
  simCallManager := registry.catalog.simCallManager.filter fun handle =>
    handle ∈ (registry.accountsInView device caller).map Account.handle

/-- The rule for a device whose foreground is not known is never used, and what is left of
the rules is `InView`. -/
theorem isVisible_iff_inView (account : Account) :
    registry.isVisible device caller account = true ↔
      account.InView device.directory registry.foreground caller := by
  unfold isVisible viewer Viewer.sees Viewer.seesScope Account.InView Scope.isOwner
  rw [Bool.or_eq_true]
  cases account.handle.scope with
  | none => simp
  | some owner =>
      simp only [Bool.or_eq_true, Bool.and_eq_true, decide_eq_true_eq, List.contains_iff_mem,
        Option.some.injEq, exists_eq_right']

theorem isVisible_eq_inView :
    registry.isVisible device caller =
      fun account => decide (account.InView device.directory registry.foreground caller) := by
  funext account
  rw [Bool.eq_iff_iff, isVisible_iff_inView, decide_eq_true_eq]

/-! ## Reads in terms of the view -/

theorem query_eq_view (filter : Filter) :
    registry.query device caller filter =
      (registry.view device caller).accounts.filter fun account =>
        filter.accepts account && device.resolves account.handle := by
  unfold query view accountsInView
  rw [isVisible_eq_inView, List.filter_filter]

variable {registry}

theorem visibleAccount?_eq_view
    (unique : Accounts.Unique registry.catalog.accounts)
    (handle : Option Handle) :
    registry.visibleAccount? device caller handle =
      handle.bind fun handle =>
        Accounts.find? handle (registry.view device caller).accounts := by
  cases handle with
  | none => rfl
  | some handle =>
      show (Accounts.find? handle registry.catalog.accounts).filter _ = _
      rw [isVisible_eq_inView]
      exact (Accounts.find?_filter _ unique handle).symm

/-- A handle finds something visible exactly if the view names it. -/
theorem isSome_visibleAccount?
    (unique : Accounts.Unique registry.catalog.accounts)
    (handle : Handle) :
    (registry.visibleAccount? device caller (some handle)).isSome =
      (registry.view device caller).names handle := by
  rw [visibleAccount?_eq_view device caller unique, Option.bind_some, View.names]
  by_cases named : handle ∈ (registry.view device caller).accounts.map Account.handle
  · have found := mt (Accounts.find?_eq_none_iff handle _).mp (not_not_intro named)
    rw [decide_eq_true named]
    exact Option.isSome_iff_ne_none.mpr found
  · rw [(Accounts.find?_eq_none_iff handle _).mpr named, decide_eq_false named]
    rfl

theorem chosenOutgoing?_eq_view (unique : Accounts.Unique registry.catalog.accounts) :
    registry.chosenOutgoing? device caller = (registry.view device caller).defaultOutgoing := by
  show _ = registry.catalog.defaultOutgoing.filter (registry.view device caller).names
  unfold chosenOutgoing?
  cases registry.catalog.defaultOutgoing with
  | none => rfl
  | some handle =>
      rw [isSome_visibleAccount? device caller unique, Option.filter_some]

/-- The chosen manager counts if the view has it and it resolves. -/
theorem callManager?_eq_view (unique : Accounts.Unique registry.catalog.accounts) :
    registry.callManager? device caller =
      if (registry.view device caller).simCallManager.any device.resolves then
        (registry.view device caller).simCallManager
      else registry.usualManager? device caller := by
  have chosen :
      (registry.view device caller).simCallManager =
        registry.catalog.simCallManager.filter (registry.view device caller).names := rfl
  rw [chosen]
  unfold callManager?
  cases registry.catalog.simCallManager with
  | none => rfl
  | some handle =>
      simp only [isSome_visibleAccount? device caller unique, Option.filter_some]
      by_cases named : (registry.view device caller).names handle = true
      · simp [named]
      · simp [named]

end Registry

end PhoneAccounts

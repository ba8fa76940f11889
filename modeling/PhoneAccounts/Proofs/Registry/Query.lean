import PhoneAccounts.Proofs.Mask
import PhoneAccounts.Proofs.Registry.View

/-!
Contract: which accounts a query lists.

A query goes over all accounts and keeps those that it asks for; a look-up stops at the first
account with its handle.  With unique handles the one finds what the other lists, so the list of a
query can be searched in place of the catalog.

Owns: `Filter.Asks`, membership and look-up in the list of a query, and the queries that a query
is made of.

Does not own: that handles are unique (see `PhoneAccounts.Proofs.Session.OrderedMap`).
-/

namespace PhoneAccounts

/-- What a query asks of an account: it is on, unless disabled accounts are wanted as well; it has
every bit of the mask, unless the mask is zero; it supports the scheme and is of the package, where
one is given. -/
structure Registry.Filter.Asks (filter : Registry.Filter) (account : Account) : Prop where
  enabled : account.enabled = true ∨ filter.includeDisabled = true
  capable : filter.mask = 0 ∨
    ∀ index, Mask.bit index filter.mask = true → Mask.bit index account.capabilities = true
  supports : ∀ scheme ∈ filter.scheme, scheme ≠ "" ∧ scheme ∈ account.schemes
  owned : ∀ package ∈ filter.package, account.handle.component.package = package

theorem Account.supports_iff (account : Account) (scheme : String) :
    account.supports scheme = true ↔ scheme ≠ "" ∧ scheme ∈ account.schemes := by
  rw [supports, Bool.and_eq_true, bne_iff_ne, List.contains_iff_mem]

theorem Device.resolves_iff (device : Device) (handle : Handle) :
    device.resolves handle = true ↔
      device.installs.resolve handle.component handle.scope ≠ [] := by
  rw [resolves, Bool.not_eq_true', List.isEmpty_eq_false_iff]

namespace Registry

theorem Filter.accepts_iff (filter : Filter) (account : Account) :
    filter.accepts account = true ↔ filter.Asks account := by
  unfold accepts Account.hasAll Handle.package
  simp only [Bool.and_eq_true, Bool.or_eq_true, decide_eq_true_eq, Option.all_eq_true,
    Account.supports_iff, Mask.covers_iff]
  exact ⟨fun ⟨⟨⟨enabled, capable⟩, supports⟩, owned⟩ => ⟨enabled, capable, supports, owned⟩,
    fun ⟨enabled, capable, supports, owned⟩ => ⟨⟨⟨enabled, capable⟩, supports⟩, owned⟩⟩

variable {registry : Registry} {device : Device} {caller : Scope} {filter : Filter}

/-! ## The list of a query -/

/-- The handles of a query stand in the order of the catalog. -/
theorem queryHandles_sublist
    (registry : Registry)
    (device : Device)
    (caller : Scope)
    (filter : Filter) :
    (registry.queryHandles device caller filter).Sublist
      (registry.catalog.accounts.map Account.handle) :=
  List.filter_sublist.map Account.handle

theorem unique_query (unique : Accounts.Unique registry.catalog.accounts) :
    Accounts.Unique (registry.query device caller filter) :=
  Accounts.unique_filter _ unique

/-! ## Looking up -/

/-- What a caller finds under a handle is an account of the catalog with that handle. -/
theorem mem_and_handle_of_visibleAccount?
    {handle : Handle}
    {account : Account}
    (visible : registry.visibleAccount? device caller (some handle) = some account) :
    account ∈ registry.catalog.accounts ∧ account.handle = handle :=
  Accounts.mem_and_handle_of_find?_eq_some (Option.filter_eq_some_iff.mp visible).1

/-- Looking up a handle in the list of a query is looking it up for the caller, and then asking
what the query asks. -/
theorem find?_query (unique : Accounts.Unique registry.catalog.accounts) (handle : Handle) :
    Accounts.find? handle (registry.query device caller filter) =
      (registry.visibleAccount? device caller (some handle)).filter fun account =>
        filter.accepts account && device.resolves account.handle := by
  have uniqueView : Accounts.Unique (registry.view device caller).accounts :=
    Accounts.unique_filter _ unique
  rw [query_eq_view, visibleAccount?_eq_view device caller unique, Option.bind_some,
    Accounts.find?_filter _ uniqueView]

/-- An account is listed under a handle just if the caller finds it there, the query asks for it
and it resolves. -/
theorem mem_query_iff_visibleAccount?
    (unique : Accounts.Unique registry.catalog.accounts)
    {handle : Handle}
    {account : Account} :
    (account ∈ registry.query device caller filter ∧ account.handle = handle) ↔
      registry.visibleAccount? device caller (some handle) = some account ∧
        filter.Asks account ∧
        device.resolves handle = true := by
  have found : (account ∈ registry.query device caller filter ∧ account.handle = handle) ↔
      Accounts.find? handle (registry.query device caller filter) = some account := by
    refine ⟨?_, Accounts.mem_and_handle_of_find?_eq_some⟩
    rintro ⟨member, rfl⟩
    exact Accounts.find?_handle_of_mem (unique_query unique) member
  rw [found, find?_query unique, Option.filter_eq_some_iff, Bool.and_eq_true, Filter.accepts_iff]
  refine and_congr_right fun visible => and_congr_right fun _ => ?_
  rw [(mem_and_handle_of_visibleAccount? visible).2]

theorem mem_queryHandles_iff
    (unique : Accounts.Unique registry.catalog.accounts)
    {handle : Handle} :
    handle ∈ registry.queryHandles device caller filter ↔
      ∃ account,
        registry.visibleAccount? device caller (some handle) = some account ∧
          filter.Asks account ∧
          device.resolves handle = true := by
  rw [queryHandles, List.mem_map]
  exact exists_congr fun account => mem_query_iff_visibleAccount? unique

/-! ## Queries made of others -/

/-- A mask of zero asks for nothing, and so does the exception that is made for it. -/
theorem Filter.accepts_eq_hasAll (filter : Filter) (account : Account) :
    filter.accepts account =
      ((account.enabled || filter.includeDisabled) && account.hasAll filter.mask &&
        filter.scheme.all account.supports &&
        filter.package.all (account.handle.package = ·)) := by
  have exception : (decide (filter.mask = 0) || account.hasAll filter.mask) =
      account.hasAll filter.mask := by
    by_cases zero : filter.mask = 0
    · simp [zero, Account.hasAll]
    · simp [zero]
  rw [accepts, exception]

/-- To ask for two masks, a scheme and a package at once is to ask for each of them. -/
theorem Filter.accepts_lor
    (left right : Int)
    (scheme package : Option String)
    (includeDisabled : Bool)
    (account : Account) :
    accepts ⟨left.lor right, scheme, package, includeDisabled⟩ account =
      (accepts ⟨left, none, none, includeDisabled⟩ account &&
        accepts ⟨right, none, none, includeDisabled⟩ account &&
        accepts ⟨0, scheme, none, includeDisabled⟩ account &&
        accepts ⟨0, none, package, includeDisabled⟩ account) := by
  simp only [accepts_eq_hasAll, Account.hasAll, Mask.covers_lor, Mask.covers_zero,
    Option.all_none, Bool.and_true]
  cases account.enabled || includeDisabled <;> simp [Bool.and_assoc]

/-- A query for two masks, a scheme and a package lists, in order, what all of the four queries
for one of them list. -/
theorem query_lor
    (registry : Registry)
    (device : Device)
    (caller : Scope)
    (left right : Int)
    (scheme package : Option String)
    (includeDisabled : Bool) :
    registry.query device caller ⟨left.lor right, scheme, package, includeDisabled⟩ =
      registry.catalog.accounts.filter fun account =>
        account ∈ registry.query device caller ⟨left, none, none, includeDisabled⟩ ∧
          account ∈ registry.query device caller ⟨right, none, none, includeDisabled⟩ ∧
          account ∈ registry.query device caller ⟨0, scheme, none, includeDisabled⟩ ∧
          account ∈ registry.query device caller ⟨0, none, package, includeDisabled⟩ := by
  refine List.filter_congr fun account member => ?_
  unfold query
  simp only [List.mem_filter, member, true_and, Filter.accepts_lor, Bool.decide_and,
    Bool.decide_eq_true]
  cases device.resolves account.handle <;>
    cases registry.isVisible device caller account <;>
    simp [Bool.and_assoc]

end Registry

end PhoneAccounts

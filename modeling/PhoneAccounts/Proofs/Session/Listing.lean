import PhoneAccounts.Proofs.Registry.Query
import PhoneAccounts.Proofs.Session.OrderedMap

/-!
Contract: queries and look-ups of a session agree.

Whatever file a session began with and whatever has happened since, a query lists the accounts that
its caller finds one by one, each handle once and in the order of the catalog; and a query for
several things lists what the queries for each of them have in common.

Owns: the agreement in every session that can come about.

Does not own: queries and look-ups on a catalog with unique handles (see
`PhoneAccounts.Proofs.Registry.Query`).
-/

namespace PhoneAccounts.Session

/-- In every session that can come about, a query lists no handle twice, and keeps the order of the
catalog.  It lists an account under a handle just if its caller finds that account there, the query
asks for it, and its component resolves for the scope of the handle; and it lists the handle just
if there is such an account.  A query for two masks, a scheme and a package lists what the four
queries for one of them have in common. -/
theorem queries_agreeWithLookups
    {session : Session}
    (reached : Reachable session)
    (caller : Scope)
    (filter : Registry.Filter) :
    let registry := session.registry
    let device := session.device
    (registry.queryHandles device caller filter).Nodup ∧
      (registry.queryHandles device caller filter).Sublist
        (registry.catalog.accounts.map Account.handle) ∧
      (∀ handle account,
        (account ∈ registry.query device caller filter ∧ account.handle = handle) ↔
          registry.visibleAccount? device caller (some handle) = some account ∧
            filter.Asks account ∧
            device.installs.resolve handle.component handle.scope ≠ []) ∧
      (∀ handle, handle ∈ registry.queryHandles device caller filter ↔
        ∃ account,
          registry.visibleAccount? device caller (some handle) = some account ∧
            filter.Asks account ∧
            device.installs.resolve handle.component handle.scope ≠ []) ∧
      ∀ (left right : Int) (scheme package : Option String) (includeDisabled : Bool),
        registry.query device caller ⟨left.lor right, scheme, package, includeDisabled⟩ =
          registry.catalog.accounts.filter fun account =>
            account ∈ registry.query device caller ⟨left, none, none, includeDisabled⟩ ∧
              account ∈ registry.query device caller ⟨right, none, none, includeDisabled⟩ ∧
              account ∈ registry.query device caller ⟨0, scheme, none, includeDisabled⟩ ∧
              account ∈ registry.query device caller ⟨0, none, package, includeDisabled⟩ := by
  intro registry device
  have unique := reached.inUse.unique
  refine ⟨Registry.unique_query unique, registry.queryHandles_sublist device caller filter,
    ?_, ?_, registry.query_lor device caller⟩
  · intro handle account
    rw [Registry.mem_query_iff_visibleAccount? unique, Device.resolves_iff]
  · intro handle
    rw [Registry.mem_queryHandles_iff unique, Device.resolves_iff]

/-! ## A sample -/

/-- A SIM that places calls, and two accounts that are none, of which one is switched on. -/
def mixedSession : Session :=
  let account (id : String) (capabilities : Int) : Account :=
    { sampleAccount Scope.owner with
      handle := ⟨⟨"com.calls", "Service"⟩, id, some Scope.owner⟩
      capabilities := capabilities }
  sampleSession.makes
    [.change Scope.owner (.register (account "plain" 2)),
      .change Scope.owner (.register (account "sim" 6)),
      .change Scope.owner (.register (account "other" 3)),
      .change Scope.owner (.setEnabled (account "other" 3).handle true)]

/-- Both bits of the mask and the scheme count, and of the accounts without the second bit it does
not matter which is on. -/
theorem mixedSession_queries :
    let filter : Registry.Filter := ⟨Int.lor 2 4, some "tel", some "com.calls", false⟩
    let registry := mixedSession.registry
    let device := mixedSession.device
    (registry.queryHandles device Scope.owner filter).map Handle.id = ["sim"] ∧
      (registry.queryHandles device Scope.owner filter).Nodup ∧
      registry.query device Scope.owner filter =
        registry.catalog.accounts.filter fun account =>
          account ∈ registry.query device Scope.owner ⟨2, none, none, false⟩ ∧
            account ∈ registry.query device Scope.owner ⟨4, none, none, false⟩ ∧
            account ∈ registry.query device Scope.owner ⟨0, some "tel", none, false⟩ ∧
            account ∈ registry.query device Scope.owner ⟨0, none, some "com.calls", false⟩ := by
  intro filter registry device
  have reached : Reachable mixedSession := (Reachable.start start_sampleDevice).leads ⟨_, rfl⟩
  obtain ⟨distinct, -, -, -, common⟩ := queries_agreeWithLookups reached Scope.owner filter
  exact ⟨by decide +kernel, distinct, common 2 4 (some "tel") (some "com.calls") false⟩

end PhoneAccounts.Session

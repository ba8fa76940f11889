import PhoneAccounts.Proofs.Registry.Effect
import PhoneAccounts.Proofs.Registry.Startup
import PhoneAccounts.Proofs.Session.Moves

/-!
Contract: the accounts of a registry are a map from handles, in insertion order.

`Change.onEntries` is what each change means for the map, without a list being searched.  In
every session that can come about, the handles are unique, and then every change does what
it means.

Owns: `Change.onEntries`, `Change.touches`, `IsOrderedMap`, and that every reachable session
is one.

Does not own: when a change is accepted.
-/

namespace PhoneAccounts

/-- The accounts of a catalog, each under its handle. -/
def Catalog.entries (catalog : Catalog) : Keyed Handle Account :=
  Accounts.entries catalog.accounts

namespace Change

/-- What an accepted change makes of the accounts.  A registered account is switched on if
the one before it was, or if it is a SIM. -/
def onEntries (entries : Keyed Handle Account) : Change → Keyed Handle Account
  | .register account =>
      match entries.valueOf? account.handle with
      | some known =>
          entries.modify account.handle fun _ =>
            account.withEnabled (known.enabled || account.isSim)
      | none => entries ++ [(account.handle, account.withEnabled account.isSim)]
  | .unregister handle => entries.filter fun entry => some entry.1 ≠ handle
  | .clear package scope =>
      entries.filter fun entry => !(entry.1.package = package ∧ entry.1.scope = scope)
  | .setEnabled (some handle) enabled =>
      entries.modify handle fun account => account.withEnabled enabled
  | .setEnabled none _ => entries
  | .setDefaultOutgoing _ => entries
  | .setCallManager _ => entries

/-- The change is about what stands under this handle. -/
def touches (change : Change) (handle : Handle) : Bool :=
  match change with
  | .register account => handle = account.handle
  | .unregister named => some handle = named
  | .clear package scope => handle.package = package ∧ handle.scope = scope
  | .setEnabled named _ => some handle = named
  | .setDefaultOutgoing _ => false
  | .setCallManager _ => false

/-- The change is about the accounts, and not about a choice among them. -/
def isOnAccounts : Change → Bool
  | .setDefaultOutgoing _ => false
  | .setCallManager _ => false
  | _ => true

end Change

/-! ## What a change leaves alone -/

theorem Keyed.filter_modify
    {Key Value : Type}
    [DecidableEq Key]
    (keeps : Key → Bool)
    {key : Key}
    (dropped : keeps key = false)
    (change : Value → Value)
    (entries : Keyed Key Value) :
    (entries.modify key change).filter (fun entry => keeps entry.1) =
      entries.filter fun entry => keeps entry.1 := by
  induction entries with
  | nil => rfl
  | cons entry rest inductionHypothesis =>
      unfold Keyed.modify at inductionHypothesis ⊢
      rw [List.map_cons]
      by_cases here : entry.1 = key
      · rw [if_pos here, List.filter_cons_of_neg (by simp [here, dropped]),
          List.filter_cons_of_neg (by simp [here, dropped]), inductionHypothesis]
      · rw [if_neg here, List.filter_cons, List.filter_cons, inductionHypothesis]

/-- Everything that a change is not about keeps its value and its order. -/
theorem Change.filter_onEntries (change : Change) (entries : Keyed Handle Account) :
    (change.onEntries entries).filter (fun entry => !change.touches entry.1) =
      entries.filter fun entry => !change.touches entry.1 := by
  cases change with
  | register account =>
      have touched : (!(Change.register account).touches account.handle) = false := by
        simp [touches]
      cases found : entries.valueOf? account.handle with
      | none => simp [onEntries, found, touches]
      | some known =>
          simp only [onEntries, found]
          exact Keyed.filter_modify (fun key => !(Change.register account).touches key) touched
            _ entries
  | unregister handle =>
      rw [onEntries, List.filter_filter]
      simp [touches]
  | clear package scope =>
      rw [onEntries, List.filter_filter]
      simp [touches]
  | setEnabled handle enabled =>
      cases handle with
      | none => rfl
      | some handle =>
          have touched : (!(Change.setEnabled (some handle) enabled).touches handle) = false := by
            simp [touches]
          rw [onEntries]
          exact Keyed.filter_modify
            (fun key => !(Change.setEnabled (some handle) enabled).touches key) touched _ entries
  | setDefaultOutgoing handle => rfl
  | setCallManager handle => rfl

/-! ## What an effect is -/

namespace Registry

variable {registry : Registry} {device : Device} {caller : Scope} {effect : Effect}

theorem entries_put_storedAs
    {catalog : Catalog}
    (unique : Accounts.Unique catalog.accounts)
    (account : Account) :
    Accounts.entries (Accounts.put (storedAs catalog account) catalog.accounts) =
      (Change.register account).onEntries catalog.entries := by
  have found : catalog.find? account.handle = catalog.entries.valueOf? account.handle :=
    Accounts.find?_eq_valueOf?_entries _ _
  have named : (storedAs catalog account).handle = account.handle := rfl
  cases known : catalog.entries.valueOf? account.handle with
  | none =>
      have stored : storedAs catalog account = account.withEnabled account.isSim := by
        rw [storedAs, found, known, Option.any_none, Bool.false_or]
      rw [Accounts.entries_put_of_absent named known, stored]
      simp only [Change.onEntries, known]
      rfl
  | some other =>
      have stored :
          storedAs catalog account = account.withEnabled (other.enabled || account.isSim) := by
        rw [storedAs, found, known, Option.any_some]
      simp only [Change.onEntries, known]
      exact Accounts.entries_put_of_present _ unique named known stored

/-- With unique handles, an accepted change does to the accounts what it means. -/
theorem entries_effectOf
    {change : Change}
    (unique : Accounts.Unique registry.catalog.accounts)
    (accepted : registry.effectOf device caller change = .ok effect) :
    effect.catalog.entries = change.onEntries registry.catalog.entries := by
  cases change with
  | register account =>
      rw [(registerEffect_eq_ok accepted).2]
      exact entries_put_storedAs unique account
  | unregister handle =>
      obtain ⟨account, found, rfl⟩ := unregisterEffect_eq_ok accepted
      have named := (account?_eq_some found).1
      show Accounts.entries (Accounts.drop account.handle registry.catalog.accounts) = _
      rw [Accounts.drop_eq_filter _ unique,
        Accounts.entries_filter fun handle => handle ≠ account.handle, named, Change.onEntries]
      simp only [ne_eq, Option.some.injEq]
      rfl
  | clear package scope =>
      rw [(clearEffect_eq_ok accepted).2]
      exact Accounts.entries_filter
        (fun handle => !(handle.package = package ∧ handle.scope = scope)) _
  | setEnabled handle enabled =>
      obtain ⟨account, found, -, -, rfl⟩ := setEnabledEffect_eq_ok accepted
      obtain ⟨rfl, known⟩ := account?_eq_some found
      rw [Accounts.find?_eq_valueOf?_entries] at known
      exact Accounts.entries_put_of_present (fun account => account.withEnabled enabled)
        unique rfl known rfl
  | setDefaultOutgoing handle => rw [(setDefaultOutgoingEffect_eq_ok accepted).2.1]; rfl
  | setCallManager handle => rw [(setCallManagerEffect_eq_ok accepted).2.1]; rfl

/-- A change to the accounts leaves both choices alone, whatever becomes of the accounts
that they name. -/
theorem choices_effectOf
    {change : Change}
    (onAccounts : change.isOnAccounts = true)
    (accepted : registry.effectOf device caller change = .ok effect) :
    effect.catalog.defaultOutgoing = registry.catalog.defaultOutgoing ∧
      effect.catalog.simCallManager = registry.catalog.simCallManager := by
  cases change with
  | register account =>
      rw [(registerEffect_eq_ok accepted).2]
      exact ⟨rfl, rfl⟩
  | unregister handle =>
      obtain ⟨account, -, rfl⟩ := unregisterEffect_eq_ok accepted
      exact ⟨rfl, rfl⟩
  | clear package scope =>
      rw [(clearEffect_eq_ok accepted).2]
      exact ⟨rfl, rfl⟩
  | setEnabled handle enabled =>
      obtain ⟨account, -, -, -, rfl⟩ := setEnabledEffect_eq_ok accepted
      exact ⟨rfl, rfl⟩
  | setDefaultOutgoing handle => exact absurd onAccounts Bool.false_ne_true
  | setCallManager handle => exact absurd onAccounts Bool.false_ne_true

end Registry

/-! ## Sessions -/

namespace Session

theorem inUse_start
    {device : Device}
    {processScope : Scope}
    {session : Session}
    (started : start device processScope = .ok session) :
    session.registry.catalog.InUse := by
  obtain ⟨registry, device', begun, rfl⟩ := start_eq_ok started
  exact Registry.inUse_of_startWith_eq_ok begun

/-- No adjustment changes the catalog. -/
theorem catalog_adjust (session : Session) (adjustment : Adjustment) :
    (session.adjust adjustment).registry.catalog = session.registry.catalog := by
  cases adjustment <;> rfl

theorem registry_writeFile (session : Session) (content : List UInt8) :
    (session.writeFile content).2.registry = session.registry := by
  unfold writeFile
  cases session.device.files.write? content session.registry.stateFile.parts <;> rfl

theorem inUse_carriedOut
    {session : Session}
    (inUse : session.registry.catalog.InUse)
    (caller : Scope)
    (change : Change) :
    (session.carriedOut caller change).registry.catalog.InUse := by
  cases decided : session.registry.effectOf session.device caller change with
  | error refusal =>
      rw [carriedOut_of_refused decided]
      exact inUse
  | ok effect =>
      rw [carriedOut_of_accepted decided]
      have current := Registry.effectOf_version decided
      exact ⟨Registry.effectOf_unique inUse.unique decided, current.trans inUse.current⟩

theorem inUse_restarted
    {session : Session}
    (inUse : session.registry.catalog.InUse)
    (processScope : Scope) :
    (session.restarted processScope).registry.catalog.InUse := by
  unfold restarted
  cases started : start session.device processScope with
  | error fault => exact inUse
  | ok fresh =>
      show fresh.registry.catalog.InUse
      exact inUse_start started

/-- Every move keeps the handles unique and the version current. -/
theorem inUse_after
    {session : Session}
    (inUse : session.registry.catalog.InUse)
    (move : Move) :
    (session.after move).registry.catalog.InUse := by
  cases move with
  | change caller change => exact inUse_carriedOut inUse caller change
  | adjust adjustment =>
      rw [after, catalog_adjust]
      exact inUse
  | writeFile content =>
      rw [after, registry_writeFile]
      exact inUse
  | restart processScope => exact inUse_restarted inUse processScope
  | log lines => exact inUse

/-- In every session that can come about, the handles are unique and the version is
current. -/
theorem Reachable.inUse {session : Session} (reached : Reachable session) :
    session.registry.catalog.InUse := by
  induction reached with
  | start started => exact inUse_start started
  | move _ move inductionHypothesis => exact inUse_after inductionHypothesis move

/-- The accounts of a session, each under its handle. -/
def entries (session : Session) : Keyed Handle Account :=
  session.registry.catalog.entries

/-- The accounts are a map from handles, and every change does to it what it means: an
accepted one changes what it is about and nothing else, and a refused one changes nothing.
Searching by handle finds the place that searching for the account itself would find. -/
structure IsOrderedMap (session : Session) : Prop where
  unique : (session.entries.map Prod.fst).Nodup
  version : session.registry.catalog.version = 5
  finds (handle : Handle) :
    session.registry.catalog.find? handle = session.entries.valueOf? handle
  searches (account known : Account) :
    session.registry.catalog.find? account.handle = some known →
      Accounts.drop account.handle session.registry.catalog.accounts =
          session.registry.catalog.accounts.erase known ∧
        Accounts.put account session.registry.catalog.accounts =
          session.registry.catalog.accounts.set
            (session.registry.catalog.accounts.idxOf known) account
  accepts (caller : Scope) (change : Change) (effect : Effect) :
    session.registry.effectOf session.device caller change = .ok effect →
      (session.carriedOut caller change).entries = change.onEntries session.entries ∧
      (session.carriedOut caller change).entries.filter (fun entry => !change.touches entry.1) =
        session.entries.filter (fun entry => !change.touches entry.1)
  keepsChoices (caller : Scope) (change : Change) :
    change.isOnAccounts = true →
      (session.carriedOut caller change).registry.catalog.defaultOutgoing =
          session.registry.catalog.defaultOutgoing ∧
        (session.carriedOut caller change).registry.catalog.simCallManager =
          session.registry.catalog.simCallManager
  refuses (caller : Scope) (change : Change) (refusal : Refusal) :
    session.registry.effectOf session.device caller change = .error refusal →
      session.carriedOut caller change = session

/-- In every session that can come about, whatever file it began with, and also while an
event is being delivered, the accounts are a map from handles in insertion order, and
changes do to it what they mean. -/
theorem reachable_isOrderedMap {session : Session} (reached : Reachable session) :
    session.IsOrderedMap where
  unique := by
    have unique := reached.inUse.unique
    unfold Accounts.Unique at unique
    unfold entries Catalog.entries Accounts.entries
    rw [List.map_map]
    exact unique
  version := reached.inUse.current
  finds handle := Accounts.find?_eq_valueOf?_entries handle _
  searches account known found :=
    ⟨Accounts.drop_eq_erase found, Accounts.put_eq_set_idxOf found⟩
  accepts caller change effect accepted := by
    have means := Registry.entries_effectOf reached.inUse.unique accepted
    rw [carriedOut_of_accepted accepted]
    refine ⟨means, ?_⟩
    show effect.catalog.entries.filter _ = _
    rw [means]
    exact change.filter_onEntries session.entries
  keepsChoices caller change onAccounts := by
    cases decided : session.registry.effectOf session.device caller change with
    | error refusal =>
        rw [carriedOut_of_refused decided]
        exact ⟨rfl, rfl⟩
    | ok effect =>
        rw [carriedOut_of_accepted decided]
        exact Registry.choices_effectOf onAccounts decided
  refuses caller change refusal refused := carriedOut_of_refused refused

/-! ## A sample -/

/-- A closed device without a state file: the owner, a profile, and one connection service. -/
def sampleDevice : Device where
  directory := ⟨false, [(Scope.owner, 0), (⟨10⟩, 17)], [(⟨10⟩, Scope.owner)]⟩
  installs := Installs.none.install ⟨"com.calls", "Service"⟩ none Service.bindPermission
  subscriptions := .none
  settings := Settings.usual ⟨1, ["home"]⟩
  files := .emptyDirectory

/-- The session that begins on the device. -/
def sampleSession : Session where
  device := sampleDevice
  registry :=
    ⟨.empty, Scope.owner, Scope.owner, Registry.upgradesOf sampleDevice.settings,
      sampleDevice.settings.stateFile⟩
  bus := .empty
  lines := []

/-- An account that can place calls, of the owner or of another scope. -/
def sampleAccount (scope : Scope) : Account where
  handle := ⟨⟨"com.calls", "Service"⟩, "line", some scope⟩
  capabilities := Capability.callProvider.mask
  schemes := ["tel"]

theorem start_sampleDevice : start sampleDevice Scope.owner = .ok sampleSession := rfl

/-- Two registered accounts stand in the order in which they came, and what follows for
every reachable session holds. -/
theorem sampleSession_isOrderedMap :
    let session := sampleSession.makes
      [.change Scope.owner (.register (sampleAccount ⟨10⟩)),
        .change Scope.owner (.register (sampleAccount Scope.owner))]
    session.entries =
        [((sampleAccount ⟨10⟩).handle, sampleAccount ⟨10⟩),
          ((sampleAccount Scope.owner).handle, sampleAccount Scope.owner)] ∧
      session.IsOrderedMap :=
  ⟨by decide +kernel,
    reachable_isOrderedMap ((Reachable.start start_sampleDevice).leads ⟨_, rfl⟩)⟩

end Session

end PhoneAccounts

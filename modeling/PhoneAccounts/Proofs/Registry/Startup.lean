import PhoneAccounts.Proofs.Catalog.Entries
import PhoneAccounts.Registry.Startup

/-!
Contract: the catalog that a registry starts with.

Owns: `Catalog.InUse`, what is true of every catalog that a registry works on, that it is
true from the start, and the start on a file that needs no correction.

Does not own: what keeps it true afterwards (see `PhoneAccounts.Proofs.Session.OrderedMap`).
-/

namespace PhoneAccounts

/-- No two accounts share a handle, and the version is the current one. -/
structure Catalog.InUse (catalog : Catalog) : Prop where
  unique : Accounts.Unique catalog.accounts
  current : catalog.version = currentVersion

namespace Startup

theorem inUse_empty : Catalog.empty.InUse :=
  ⟨List.nodup_nil, rfl⟩

/-- Whatever a file holds, the catalog made of it can be used. -/
theorem inUse_ofLoaded (directory : ScopeDirectory) (loaded : StateFile.LoadResult) :
    (ofLoaded directory loaded).1.InUse := by
  cases loaded with
  | loaded catalog => exact ⟨Accounts.unique_withoutDuplicates _, rfl⟩
  | absent => exact inUse_empty
  | corrupt => exact inUse_empty

/-- A catalog in use whose accounts all have a live scope is taken as it is, and is not
written again. -/
theorem ofLoaded_of_inUse
    {directory : ScopeDirectory}
    {catalog : Catalog}
    (inUse : catalog.InUse)
    (live : ∀ account ∈ catalog.accounts, hasLiveScope directory account = true) :
    ofLoaded directory (.loaded catalog) = (catalog, false) := by
  have kept : keptAccounts directory catalog.accounts = catalog.accounts := by
    rw [keptAccounts, List.filter_eq_self.mpr live]
    exact Accounts.withoutDuplicates_of_unique inUse.unique
  have unsaved : needsSave directory catalog = false := by
    rw [needsSave, kept, inUse.current]
    simp
  have same : normalise directory catalog = catalog := by
    rw [normalise, kept, ← inUse.current]
  rw [ofLoaded, same, unsaved]

/-- The catalog has to be written again, and cannot be written out. -/
def IsBlocked (directory : ScopeDirectory) (loaded : StateFile.LoadResult) : Prop :=
  (ofLoaded directory loaded).2 = true ∧
    StateFile.isWritable directory (ofLoaded directory loaded).1 = false

instance (directory : ScopeDirectory) (loaded : StateFile.LoadResult) :
    Decidable (IsBlocked directory loaded) :=
  inferInstanceAs (Decidable (_ ∧ _))

theorem not_isBlocked_of_unsaved
    {directory : ScopeDirectory}
    {loaded : StateFile.LoadResult}
    (unsaved : (ofLoaded directory loaded).2 = false) :
    ¬ IsBlocked directory loaded :=
  fun blocked => nomatch unsaved.symm.trans blocked.1

end Startup

namespace Registry

/-- What a start reads the file against. -/
def startReader (device : Device) (processScope : Scope) : StateFile.Reader :=
  ⟨device.directory, processScope, upgradesOf device.settings⟩

/-- The registry that starts on what the file was found to hold, and the device after that if
nothing is in the way. -/
def begun (device : Device) (processScope : Scope) (loaded : StateFile.LoadResult) :
    Registry × Device :=
  let (catalog, mustSave) := Startup.ofLoaded device.directory loaded
  let registry : Registry :=
    ⟨catalog, processScope, processScope, upgradesOf device.settings, device.settings.stateFile⟩
  (registry, if mustSave then registry.save device else device)

variable
  {parser : Yaml.Parser}
  {device : Device}
  {processScope : Scope}
  {loaded : StateFile.LoadResult}

theorem startOn_eq (device : Device) (processScope : Scope) (loaded : StateFile.LoadResult) :
    startOn device processScope loaded =
      if Startup.IsBlocked device.directory loaded then .error .longInteger
      else .ok (begun device processScope loaded) := by
  unfold startOn begun Startup.IsBlocked
  simp only [isWritable]
  by_cases mustSave : (Startup.ofLoaded device.directory loaded).2 = true
  · by_cases writable :
        StateFile.isWritable device.directory (Startup.ofLoaded device.directory loaded).1 = true
    · simp [mustSave, writable]
    · simp [mustSave, writable]
  · simp [mustSave]

/-- A start leaves the settings alone. -/
theorem settings_begun (device : Device) (processScope : Scope) (loaded : StateFile.LoadResult) :
    (begun device processScope loaded).2.settings = device.settings := by
  unfold begun
  dsimp only
  split <;> rfl

theorem startWith_of_load
    (found : StateFile.loadWith parser (startReader device processScope)
      device.settings.stateFile device.files = .ok loaded) :
    startWith parser device processScope = startOn device processScope loaded := by
  unfold startReader at found
  unfold startWith
  simp only [found, bind, Except.bind]

theorem startWith_of_stopped
    {stop : StateFile.Stop}
    (stops : StateFile.loadWith parser (startReader device processScope)
      device.settings.stateFile device.files = .error stop) :
    startWith parser device processScope = .error stop := by
  unfold startReader at stops
  unfold startWith
  simp only [stops, bind, Except.bind]

/-- A registry that starts holds what the file was found to hold, and saves it if it must. -/
theorem startWith_eq_ok
    (found : StateFile.loadWith parser (startReader device processScope)
      device.settings.stateFile device.files = .ok loaded)
    (free : ¬ Startup.IsBlocked device.directory loaded) :
    startWith parser device processScope = .ok (begun device processScope loaded) := by
  rw [startWith_of_load found, startOn_eq, if_neg free]

/-- A registry starts only on a file that can be loaded, and has nothing in its way. -/
theorem load_of_startWith_eq_ok
    {started : Registry × Device}
    (starts : startWith parser device processScope = .ok started) :
    ∃ loaded,
      StateFile.loadWith parser (startReader device processScope) device.settings.stateFile
          device.files = .ok loaded ∧
        ¬ Startup.IsBlocked device.directory loaded ∧
        started = begun device processScope loaded := by
  cases found : StateFile.loadWith parser (startReader device processScope)
      device.settings.stateFile device.files with
  | error stop => exact nomatch (startWith_of_stopped found).symm.trans starts
  | ok loaded =>
      rw [startWith_of_load found, startOn_eq] at starts
      by_cases blocked : Startup.IsBlocked device.directory loaded
      · rw [if_pos blocked] at starts
        exact nomatch starts
      · rw [if_neg blocked] at starts
        exact ⟨loaded, rfl, blocked, (Except.ok.inj starts).symm⟩

/-- A start is stopped by what stops the loading, and by a catalog that has to be written again and
cannot be. -/
theorem startWith_eq_error_iff {stop : StateFile.Stop} :
    startWith parser device processScope = .error stop ↔
      StateFile.loadWith parser (startReader device processScope) device.settings.stateFile
          device.files = .error stop ∨
        ∃ loaded,
          StateFile.loadWith parser (startReader device processScope) device.settings.stateFile
              device.files = .ok loaded ∧
            Startup.IsBlocked device.directory loaded ∧ stop = .longInteger := by
  cases found : StateFile.loadWith parser (startReader device processScope)
      device.settings.stateFile device.files with
  | error other => simp [startWith_of_stopped found]
  | ok loaded =>
      rw [startWith_of_load found, startOn_eq]
      by_cases blocked : Startup.IsBlocked device.directory loaded
      · simp [blocked, eq_comm]
      · simp [blocked]

theorem inUse_of_startWith_eq_ok
    {started : Registry × Device}
    (starts : startWith parser device processScope = .ok started) :
    started.1.catalog.InUse := by
  obtain ⟨loaded, -, -, rfl⟩ := load_of_startWith_eq_ok starts
  exact Startup.inUse_ofLoaded device.directory loaded

end Registry

end PhoneAccounts

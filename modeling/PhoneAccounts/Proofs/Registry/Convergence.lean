import Mathlib.Data.List.Nodup
import PhoneAccounts.Proofs.Catalog.Duplicates
import PhoneAccounts.Proofs.Device.ScopeDirectory
import PhoneAccounts.Proofs.Registry.Startup
import PhoneAccounts.Proofs.StateFile.Readers

/-!
Contract: a start puts the file in order once.

A catalog that is loaded may be of an older version, or hold accounts whose scope is gone, or
several accounts with one handle.  The start corrects all of it and saves the result.  What it
saved is read back with the same scopes and with handles that are still different from each
other, so the next start has nothing to correct.

Owns: `MustRepair`, `BeginsWith`, and that starts come to rest.

Does not own: what becomes of the texts in the file (see `PhoneAccounts.Proofs.StateFile.Text`).
-/

namespace PhoneAccounts

/-! ## What a start corrects -/

namespace Startup

variable {directory : ScopeDirectory} {stored : Catalog}

/-- The catalog is of an older version, or one of its accounts has no scope that exists, or two
of the others share a handle. -/
def MustRepair (directory : ScopeDirectory) (stored : Catalog) : Prop :=
  stored.version < currentVersion ∨
    (∃ account ∈ stored.accounts, hasLiveScope directory account = false) ∨
    ¬ Accounts.Unique (stored.accounts.filter (hasLiveScope directory))

theorem hasLiveScope_iff (account : Account) :
    hasLiveScope directory account = true ↔
      ∃ scope, account.handle.scope = some scope ∧
        directory.serialOf scope ≠ ScopeDirectory.unknownSerial := by
  unfold hasLiveScope
  cases account.handle.scope with
  | none => simp
  | some scope => simp

/-- No account is left out exactly where every one has a scope that exists and no two share a
handle. -/
theorem length_keptAccounts_eq_iff (accounts : List Account) :
    (keptAccounts directory accounts).length = accounts.length ↔
      (∀ account ∈ accounts, hasLiveScope directory account = true) ∧
        Accounts.Unique (accounts.filter (hasLiveScope directory)) := by
  have fewer := List.length_filter_le (hasLiveScope directory) accounts
  obtain ⟨shorter, unique⟩ :=
    Accounts.length_withoutDuplicates (accounts.filter (hasLiveScope directory))
  unfold keptAccounts
  constructor
  · intro same
    have all : (accounts.filter (hasLiveScope directory)).length = accounts.length := by omega
    exact ⟨List.length_filter_eq_length_iff.mp all, unique (by omega)⟩
  · rintro ⟨live, distinct⟩
    rw [Accounts.withoutDuplicates_of_unique distinct, List.filter_eq_self.mpr live]

theorem needsSave_iff : needsSave directory stored = true ↔ MustRepair directory stored := by
  unfold needsSave MustRepair
  rw [Bool.or_eq_true, decide_eq_true_iff, bne_iff_ne, ne_eq, length_keptAccounts_eq_iff,
    not_and_or]
  simp only [not_forall, Bool.not_eq_true, exists_prop]

instance (directory : ScopeDirectory) (stored : Catalog) :
    Decidable (MustRepair directory stored) :=
  decidable_of_iff _ needsSave_iff

/-- The handle names a scope that exists. -/
def isLive (directory : ScopeDirectory) (handle : Handle) : Bool :=
  match handle.scope with
  | none => false
  | some scope => directory.serialOf scope != ScopeDirectory.unknownSerial

/-- Only the version and the handles decide whether a catalog has to be corrected. -/
theorem mustRepair_congr
    {other : Catalog}
    (version : other.version = stored.version)
    (handles : other.accounts.map Account.handle = stored.accounts.map Account.handle) :
    MustRepair directory other ↔ MustRepair directory stored := by
  have byHandles (catalog : Catalog) :
      MustRepair directory catalog ↔
        catalog.version < currentVersion ∨
          (∃ handle ∈ catalog.accounts.map Account.handle, isLive directory handle = false) ∨
          ¬ ((catalog.accounts.map Account.handle).filter (isLive directory)).Nodup := by
    rw [MustRepair, Accounts.Unique, List.filter_map]
    simp only [List.mem_map, exists_exists_and_eq_and]
    rfl
  rw [byHandles other, byHandles stored, version, handles]

end Startup

/-! ## What was saved comes back in order -/

section

variable {directory : ScopeDirectory}

theorem Handle.IsRead.reread_scope_of_exists
    {handle : Handle}
    (read : handle.IsRead directory)
    (distinct : directory.HasDistinctLiveSerials)
    {scope : Scope}
    (named : handle.scope = some scope)
    (exist : directory.serialOf scope ≠ ScopeDirectory.unknownSerial) :
    directory.reread handle.scope = handle.scope := by
  obtain ⟨serial, found⟩ := read.scope scope named
  rw [named]
  exact distinct.scopeOf?_serialOf found exist

/-- Two handles that were read, with scopes that exist, do not come back as one. -/
theorem Handle.IsRead.reread_inj
    {left right : Handle}
    (leftRead : left.IsRead directory)
    (rightRead : right.IsRead directory)
    (leftScope : directory.reread left.scope = left.scope)
    (rightScope : directory.reread right.scope = right.scope)
    (same : left.reread directory = right.reread directory) :
    left = right := by
  obtain ⟨leftText, leftComponent⟩ := leftRead.component
  obtain ⟨rightText, rightComponent⟩ := rightRead.component
  rw [reread, reread, mk.injEq, leftScope, rightScope] at same
  obtain ⟨component, id, scope⟩ := same
  have sameComponent := Component.reread_inj_of_read leftComponent rightComponent component
  cases left
  cases right
  exact (mk.injEq ..).mpr ⟨sameComponent, id, scope⟩

theorem Catalog.IsRead.normalise
    {processScope : Scope}
    {stored : Catalog}
    (read : stored.IsRead directory processScope) :
    (Startup.normalise directory stored).IsRead directory processScope := by
  refine ⟨?_, read.defaultOutgoing, read.simCallManager⟩
  intro account member
  have kept := Accounts.mem_of_mem_withoutDuplicates member
  exact read.accounts account (List.mem_filter.mp kept).1

/-- A corrected catalog that comes back from the file needs no correction, whoever reads it. -/
theorem Catalog.IsRead.ofLoaded_reread
    {processScope : Scope}
    {stored : Catalog}
    (read : stored.IsRead directory processScope)
    (distinct : directory.HasDistinctLiveSerials)
    (otherScope : Scope) :
    let again := (Startup.normalise directory stored).reread directory otherScope
    Startup.ofLoaded directory (.loaded again) = (again, false) := by
  intro again
  have live : ∀ account ∈ (Startup.normalise directory stored).accounts,
      Startup.hasLiveScope directory account = true := by
    intro account member
    have kept := Accounts.mem_of_mem_withoutDuplicates member
    exact (List.mem_filter.mp kept).2
  have scopes : ∀ account ∈ (Startup.normalise directory stored).accounts,
      directory.reread account.handle.scope = account.handle.scope := by
    intro account member
    obtain ⟨scope, named, exist⟩ := (Startup.hasLiveScope_iff account).mp (live account member)
    exact (read.normalise.accounts account member).handle.reread_scope_of_exists distinct named
      exist
  apply Startup.ofLoaded_of_inUse
  · refine ⟨?_, rfl⟩
    show (((Startup.normalise directory stored).accounts.map
      (Account.reread directory)).map Account.handle).Nodup
    have handles : Account.handle ∘ Account.reread directory =
        Handle.reread directory ∘ Account.handle := rfl
    rw [List.map_map, handles, ← List.map_map]
    refine List.Nodup.map_on ?_ (Accounts.unique_withoutDuplicates _)
    intro left leftMember right rightMember same
    obtain ⟨leftAccount, leftListed, rfl⟩ := List.mem_map.mp leftMember
    obtain ⟨rightAccount, rightListed, rfl⟩ := List.mem_map.mp rightMember
    exact (read.normalise.accounts leftAccount leftListed).handle.reread_inj
      (read.normalise.accounts rightAccount rightListed).handle
      (scopes leftAccount leftListed) (scopes rightAccount rightListed) same
  · intro account member
    obtain ⟨before, listed, rfl⟩ := List.mem_map.mp member
    rw [Startup.hasLiveScope_iff]
    show ∃ scope, directory.reread before.handle.scope = some scope ∧ _
    rw [scopes before listed]
    exact (Startup.hasLiveScope_iff before).mp (live before listed)

end

theorem StateFile.LoadResult.eq_loaded_of_catalog?
    {loaded : LoadResult}
    {catalog : Catalog}
    (given : loaded.catalog? = some catalog) :
    loaded = .loaded catalog := by
  cases loaded with
  | loaded other => rw [Option.some.inj given]
  | absent => exact absurd given (by simp [catalog?])
  | corrupt => exact absurd given (by simp [catalog?])

namespace Registry

variable {parser : Yaml.Parser} {device : Device} {processScope : Scope}

/-! ## Starts -/

/-- The registry begins with the catalog of the file, corrected, and the device differs from
before at most in the file, which was saved if something was corrected. -/
structure BeginsWith
    (device : Device)
    (stored : Catalog)
    (registry : Registry)
    (after : Device) :
    Prop where
  defaultOutgoing : registry.catalog.defaultOutgoing = stored.defaultOutgoing
  simCallManager : registry.catalog.simCallManager = stored.simCallManager
  version : registry.catalog.version = currentVersion
  accounts : registry.catalog.accounts =
    Accounts.lastOfEach (stored.accounts.filter (Startup.hasLiveScope device.directory))
  rewrites : Startup.MustRepair device.directory stored →
    ∀ files,
      StateFile.save? device.directory device.settings.stateFile registry.catalog
          device.files = some files →
        after = { device with files := files } ∧
          files.read device.settings.stateFile.parts =
            .ok (StateFile.encode device.directory registry.catalog)
  fails :
    StateFile.save? device.directory device.settings.stateFile registry.catalog
        device.files = none →
      after = device
  keeps : ¬ Startup.MustRepair device.directory stored → after = device

theorem start_of_loaded
    {stored : Catalog}
    {registry : Registry}
    {after : Device}
    (starts : startWith parser device processScope = .ok (registry, after))
    (found : StateFile.loadWith parser (startReader device processScope)
      device.settings.stateFile device.files = .ok (.loaded stored)) :
    registry.catalog = Startup.normalise device.directory stored ∧
      BeginsWith device stored registry after := by
  obtain ⟨loaded, again, -, same⟩ := load_of_startWith_eq_ok starts
  obtain rfl := Except.ok.inj (found.symm.trans again)
  obtain ⟨rfl, rfl⟩ := Prod.mk.inj same
  have saves (registry : Registry) {result : Option Entry}
      (attempted : StateFile.save? device.directory registry.stateFile registry.catalog
        device.files = result) :
      registry.save device = { device with files := result.getD device.files } := by
    rw [save, StateFile.save_fst_eq_getD, attempted]
  refine ⟨rfl, rfl, rfl, rfl, ?_, ?_, ?_, ?_⟩
  · exact Accounts.withoutDuplicates_eq_lastOfEach _
  · intro repairs files saved
    exact ⟨(if_pos (Startup.needsSave_iff.mpr repairs)).trans (saves _ saved),
      StateFile.read_of_save?_eq_some saved⟩
  · intro unsaved
    exact (congrArg (ite _ · device) (saves _ unsaved)).trans (ite_self device)
  · intro inOrder
    exact if_neg fun saves => inOrder (Startup.needsSave_iff.mp saves)

/-! ## Starts that change nothing -/

/-- A start that has nothing to correct leaves the device as it is. -/
theorem start_of_corrected
    {loaded : StateFile.LoadResult}
    (found : StateFile.loadWith parser (startReader device processScope)
      device.settings.stateFile device.files = .ok loaded)
    (corrected : (Startup.ofLoaded device.directory loaded).2 = false) :
    ∃ registry, startWith parser device processScope = .ok (registry, device) := by
  have begins := startWith_eq_ok found (Startup.not_isBlocked_of_unsaved corrected)
  dsimp only [begun] at begins
  rw [corrected] at begins
  exact ⟨_, begins⟩

/-- What another start would find: the same file, the same scopes. -/
structure SameFile (device other : Device) : Prop where
  directory : other.directory = device.directory
  stateFile : other.settings.stateFile = device.settings.stateFile
  files : other.files = device.files

variable {other : Device}

/-- Where one start had nothing to correct, the next has nothing to correct either. -/
theorem start_again_of_inOrder
    {stored : Catalog}
    (found : StateFile.loadWith parser (startReader device processScope)
      device.settings.stateFile device.files = .ok (.loaded stored))
    (inOrder : ¬ Startup.MustRepair device.directory stored)
    (same : SameFile device other)
    (otherScope : Scope) :
    ∃ fresh, startWith parser other otherScope = .ok (fresh, other) := by
  obtain ⟨again, loads, alike⟩ :=
    StateFile.loadWith_of_reader found (startReader other otherScope)
  rw [← same.stateFile, ← same.files] at loads
  have inOrder : ¬ Startup.MustRepair other.directory again := by
    rw [Startup.mustRepair_congr alike.version (alike.accounts.handles same.directory), same.directory]
    exact inOrder
  exact start_of_corrected loads
    (Bool.eq_false_iff.mpr fun saves => inOrder (Startup.needsSave_iff.mp saves))

/-- Where one start saved the corrected catalog, the next has nothing to correct. -/
theorem start_again_of_saved
    {stored : Catalog}
    (same : SameFile device other)
    (read : stored.IsRead device.directory processScope)
    (distinct : device.directory.HasDistinctLiveSerials)
    (saved : device.files.read device.settings.stateFile.parts =
      .ok (StateFile.encode device.directory (Startup.normalise device.directory stored)))
    (readsBack : StateFile.ReadsBackWith parser device.directory
      (Startup.normalise device.directory stored))
    (otherScope : Scope) :
    ∃ fresh, startWith parser other otherScope = .ok (fresh, other) := by
  have loads := StateFile.loadWith_of_stored saved readsBack (startReader other otherScope)
  rw [StateFile.storedResult_of_readable fun handle stored => read.normalise.isReadable stored,
    ← same.stateFile, ← same.files] at loads
  have reread : (startReader other otherScope).directory = device.directory := same.directory
  rw [reread, Catalog.rereadFrom_self] at loads
  have corrected := read.ofLoaded_reread distinct otherScope
  exact start_of_corrected loads (by
    rw [same.directory]
    exact congrArg Prod.snd corrected)

/-- Where no catalog is found, the registry begins with the empty one and nothing is written. -/
theorem begun_of_unloaded
    {loaded : StateFile.LoadResult}
    (unloaded : loaded.catalog? = none) :
    begun device processScope loaded =
      (⟨.empty, processScope, processScope, upgradesOf device.settings,
        device.settings.stateFile⟩, device) := by
  cases loaded with
  | loaded catalog => exact nomatch unloaded
  | absent => rfl
  | corrupt => rfl

theorem start_again_of_unloaded
    {loaded : StateFile.LoadResult}
    (found : StateFile.loadWith parser (startReader device processScope)
      device.settings.stateFile device.files = .ok loaded)
    (unloaded : loaded.catalog? = none)
    (same : SameFile device other)
    (otherScope : Scope) :
    ∃ fresh, startWith parser other otherScope = .ok (fresh, other) := by
  have again := StateFile.loadWith_of_reader_of_unloaded found unloaded
    (startReader other otherScope)
  rw [← same.stateFile, ← same.files] at again
  cases loaded with
  | loaded catalog => exact nomatch unloaded
  | absent => exact start_of_corrected again rfl
  | corrupt => exact start_of_corrected again rfl

/-- A catalog that was loaded stops the start exactly if it has to be corrected and cannot be
written out after that. -/
theorem isBlocked_iff {directory : ScopeDirectory} {loaded : StateFile.LoadResult} :
    Startup.IsBlocked directory loaded ↔
      ∃ stored, loaded = .loaded stored ∧ Startup.MustRepair directory stored ∧
        StateFile.isWritable directory (Startup.normalise directory stored) = false := by
  cases loaded with
  | loaded stored =>
      rw [Startup.IsBlocked, Startup.ofLoaded, Startup.needsSave_iff]
      constructor
      · exact fun blocked => ⟨stored, rfl, blocked⟩
      · rintro ⟨other, same, blocked⟩
        obtain rfl := StateFile.LoadResult.loaded.inj same
        exact blocked
  | absent => simp [Startup.IsBlocked, Startup.ofLoaded]
  | corrupt => simp [Startup.IsBlocked, Startup.ofLoaded]

/-- A registry starts on every file that can be loaded, unless the catalog in it has to be corrected
and cannot be written out after that.  Where the file gives no catalog, the registry begins with the
empty one and leaves the file.  Otherwise it begins with the corrected catalog, and saves it if
something was to be corrected.

If the scopes that exist have distinct serial numbers, and what had to be saved was saved and can
be read, then whoever starts on the same file with the same scopes changes nothing. -/
theorem start_corrects_once
    {loaded : StateFile.LoadResult}
    (found : StateFile.loadWith parser (startReader device processScope)
      device.settings.stateFile device.files = .ok loaded) :
    (∀ stop, startWith parser device processScope = .error stop ↔
      stop = .longInteger ∧
        ∃ stored, loaded = .loaded stored ∧ Startup.MustRepair device.directory stored ∧
          StateFile.isWritable device.directory
            (Startup.normalise device.directory stored) = false) ∧
    ∀ registry after, startWith parser device processScope = .ok (registry, after) →
      (loaded.catalog? = none → registry.catalog = .empty ∧ after = device) ∧
        (∀ stored, loaded = .loaded stored → BeginsWith device stored registry after) ∧
        (device.directory.HasDistinctLiveSerials →
          (∀ stored, loaded = .loaded stored → Startup.MustRepair device.directory stored →
            (StateFile.save? device.directory device.settings.stateFile registry.catalog
              device.files).isSome = true ∧
            StateFile.ReadsBackWith parser device.directory registry.catalog) →
          ∀ other, SameFile after other → ∀ otherScope,
            ∃ fresh, startWith parser other otherScope = .ok (fresh, other)) := by
  constructor
  · intro stop
    rw [startWith_of_load found, startOn_eq, ← isBlocked_iff]
    by_cases blocked : Startup.IsBlocked device.directory loaded
    · simp [blocked, eq_comm]
    · simp [blocked]
  intro registry after starts
  cases given : loaded.catalog? with
  | none =>
      obtain ⟨again, foundAgain, -, same⟩ := load_of_startWith_eq_ok starts
      obtain rfl := Except.ok.inj (found.symm.trans foundAgain)
      have untouched : registry.catalog = .empty ∧ after = device := by
        rw [begun_of_unloaded given] at same
        obtain ⟨rfl, rfl⟩ := Prod.mk.inj same
        exact ⟨rfl, rfl⟩
      refine ⟨fun _ => untouched, ?_, ?_⟩
      · rintro stored rfl
        exact nomatch given
      · intro _ _ other same otherScope
        rw [untouched.2] at same
        exact start_again_of_unloaded found given same otherScope
  | some stored =>
      obtain rfl : loaded = .loaded stored := StateFile.LoadResult.eq_loaded_of_catalog? given
      obtain ⟨catalog, begins⟩ := start_of_loaded starts found
      refine ⟨nofun, ?_, ?_⟩
      · intro other same
        rw [← StateFile.LoadResult.loaded.inj same]
        exact begins
      · intro distinct saves other same otherScope
        by_cases repairs : Startup.MustRepair device.directory stored
        · obtain ⟨succeeds, readsBack⟩ := saves stored rfl repairs
          obtain ⟨files, saved⟩ := Option.isSome_iff_exists.mp succeeds
          obtain ⟨rfl, content⟩ := begins.rewrites repairs files saved
          rw [catalog] at content readsBack
          exact start_again_of_saved same (StateFile.isRead_of_loadWith found) distinct content
            readsBack otherScope
        · rw [begins.keeps repairs] at same
          exact start_again_of_inOrder found repairs same otherScope

/-! ## Samples -/

/-- A file of an older version: two accounts with one handle, and one without a scope. -/
def disorderFile : List UInt8 :=
  Text.Utf8.encode
    ("phone_account_registrar_state: \x7bversion: 4, accounts: [" ++
      "\x7baccount_handle: \x7bcomponent_name: a/b, id: x, user_serial_number: 0\x7d\x7d, " ++
      "\x7baccount_handle: \x7bcomponent_name: a/b\x7d\x7d, " ++
      "\x7baccount_handle: \x7bcomponent_name: a/b, id: x, user_serial_number: 0\x7d, " ++
      "capabilities: 2\x7d]\x7d\n").toList

/-- A device with these bytes at the path of its state file, and nothing else. -/
def deviceWith (content : List UInt8) : Device where
  directory := .initial false
  installs := .none
  subscriptions := .none
  settings := { Settings.usual ⟨1, ["home"]⟩ with stateFile := ⟨0, ["state.yaml"]⟩ }
  files := .directory [("state.yaml", .file content)]

def disorderDevice : Device := deviceWith disorderFile

/-- The account that stays, with the icon that came with the upgrade. -/
def lastAccount : Account where
  handle := ⟨⟨"a", "b"⟩, "x", some Scope.owner⟩
  capabilities := 2
  icon := some (.ofResource "a" Icon.noResource Icon.noTint)

/-- What stands in the file. -/
def disorderCatalog : Catalog where
  accounts :=
    [{ lastAccount with capabilities := 0 },
      { lastAccount with handle := ⟨⟨"a", "b"⟩, "", none⟩, capabilities := 0 }, lastAccount]
  version := 4

/-- That stands in the file whether or not the device is closed. -/
theorem load_disorderFile (isOpen : Bool) :
    StateFile.load ⟨.initial isOpen, Scope.owner, upgradesOf disorderDevice.settings⟩
      disorderDevice.settings.stateFile disorderDevice.files = .ok (.loaded disorderCatalog) := by
  let reader (isOpen : Bool) : StateFile.Reader :=
    ⟨.initial isOpen, Scope.owner, upgradesOf disorderDevice.settings⟩
  -- The text is read once for both devices.
  have both : (Yaml.treeOfBytes? disorderFile).toOption.map (fun tree =>
      [true, false].all fun isOpen =>
        ((reader isOpen).decodeTree tree).toOption = some (some disorderCatalog)) =
      some true := by
    decide +kernel
  obtain ⟨tree, read, each⟩ := Option.map_eq_some_iff.mp both
  have listed : isOpen ∈ [true, false] := by cases isOpen <;> simp
  have decoded : (reader isOpen).decodeTree tree = .ok (some disorderCatalog) :=
    eq_ok_of_toOption (of_decide_eq_true (List.all_eq_true.mp each isOpen listed))
  show StateFile.classify ((reader isOpen).decodeWith Yaml.treeOfBytes? disorderFile) = _
  rw [StateFile.decodeWith_eq_ok_iff.mpr ⟨tree, eq_ok_of_toOption read, decoded⟩]
  rfl

/-- What the registry makes of it. -/
def orderedCatalog : Catalog where
  accounts := [lastAccount]

/-- One account stays, the file is written, and the next start changes nothing. -/
theorem disorder_isCorrectedOnce :
    ∃ registry after,
      start disorderDevice Scope.owner = .ok (registry, after) ∧
        registry.catalog = orderedCatalog ∧
        after.files.read ["state.yaml"] =
          .ok (StateFile.encode disorderDevice.directory orderedCatalog) ∧
        ∃ fresh, start after ⟨10⟩ = .ok (fresh, after) := by
  have found : StateFile.load (startReader disorderDevice Scope.owner)
      disorderDevice.settings.stateFile disorderDevice.files =
      .ok (.loaded disorderCatalog) := load_disorderFile false
  have ordered : Startup.normalise disorderDevice.directory disorderCatalog = orderedCatalog := by
    decide +kernel
  have free : ¬ Startup.IsBlocked disorderDevice.directory (.loaded disorderCatalog) := by
    decide +kernel
  obtain ⟨registry, after, starts, catalog⟩ : ∃ registry after,
      start disorderDevice Scope.owner = .ok (registry, after) ∧
        registry.catalog = orderedCatalog :=
    ⟨_, _, startWith_eq_ok found free, ordered⟩
  obtain ⟨-, begins, rests⟩ := (start_corrects_once found).2 registry after starts
  have repairs : Startup.MustRepair disorderDevice.directory disorderCatalog := by decide +kernel
  have succeeds : (StateFile.save? disorderDevice.directory disorderDevice.settings.stateFile
      registry.catalog disorderDevice.files).isSome = true := by
    rw [catalog]
    decide +kernel
  have readsBack : StateFile.ReadsBack disorderDevice.directory registry.catalog := by
    rw [catalog]
    decide +kernel
  obtain ⟨files, saved⟩ := Option.isSome_iff_exists.mp succeeds
  obtain ⟨rfl, content⟩ := (begins disorderCatalog rfl).rewrites repairs files saved
  refine ⟨registry, _, starts, catalog, ?_, ?_⟩
  · rw [← catalog]
    exact content
  · exact rests (by decide) (fun _ _ _ => ⟨succeeds, readsBack⟩) _ ⟨rfl, rfl, rfl⟩ ⟨10⟩

/-- What a file of an older version says that is in order, but for the capabilities of its account:
an integer that takes 4301 digits. -/
def boundlessTree : Tree :=
  .mapping [(.text StateFile.Key.root, .mapping [
    (.text StateFile.Key.version, .integer 4),
    (.text StateFile.Key.accounts, .sequence [.mapping [
      (.text StateFile.Key.handle, .mapping [
        (.text StateFile.Key.componentName, .text "a/b"),
        (.text StateFile.Key.id, .text "x"),
        (.text StateFile.Key.serialNumber, .integer 0)]),
      (.text StateFile.Key.capabilities, .integer (Number.tenTo 4300))]])])]

def boundlessCatalog : Catalog where
  accounts := [{ lastAccount with capabilities := Number.tenTo 4300 }]
  version := 4

/-- A file that says this is loaded, but the registry that has to write it in the current version
does not start. -/
theorem boundless_stopsStart :
    let parser : Yaml.Parser := fun _ => .ok boundlessTree
    let device := deviceWith []
    StateFile.loadWith parser (startReader device Scope.owner) device.settings.stateFile
        device.files = .ok (.loaded boundlessCatalog) ∧
      startWith parser device Scope.owner = .error .longInteger := by
  intro parser device
  have decoded : (startReader device Scope.owner).decodeTree boundlessTree =
      .ok (some boundlessCatalog) :=
    eq_ok_of_toOption (by decide +kernel)
  have found : StateFile.loadWith parser (startReader device Scope.owner)
      device.settings.stateFile device.files = .ok (.loaded boundlessCatalog) := by
    show StateFile.classify ((startReader device Scope.owner).decodeWith parser []) = _
    rw [StateFile.decodeWith_eq_ok_iff.mpr ⟨boundlessTree, rfl, decoded⟩]
    rfl
  have blocked : Startup.IsBlocked device.directory (.loaded boundlessCatalog) := by
    decide +kernel
  exact ⟨found, startWith_eq_error_iff.mpr (.inr ⟨_, found, blocked, rfl⟩)⟩

end Registry

end PhoneAccounts

import PhoneAccounts.Command.Run
import PhoneAccounts.Proofs.Console.Markup
import PhoneAccounts.Proofs.Registry.Convergence
import PhoneAccounts.Proofs.Yaml.Number

/-!
Contract: what migrating makes of a state file.

The command looks at the file once to decide whether there is anything to do, and a registry that
it starts then looks at it again.  Both know nothing about the scopes of the device and take serial
numbers for ids, so they find the same catalog.  The registry puts it in order and writes it with
the current version, and from then on there is nothing to do.  What is done to the file is done
before it is told, so a notice that cannot be shown takes none of it back.

Owns: `Catalog.migrated`, `Catalog.flattened`, `Tells`, `Migrates`, and what the command does to
each file.

Does not own: what stands in the catalog that is found (see
`PhoneAccounts.Proofs.StateFile.Decoded`).
-/

namespace PhoneAccounts

/-! ## Scopes of a device about which nothing is known -/

namespace ScopeDirectory

theorem serialOf_initial_true (scope : Scope) : (initial true).serialOf scope = scope.id := by
  unfold serialOf initial
  rw [Keyed.valueOf?, Keyed.valueOf?_nil]
  by_cases isOwner : Scope.owner = scope
  · subst isOwner
    rfl
  · rw [if_neg isOwner]
    rfl

theorem scopeOf?_initial_true (serial : Int) : (initial true).scopeOf? serial = some ⟨serial⟩ := by
  unfold scopeOf? initial
  by_cases isOwner : serial = 0
  · subst isOwner
    rfl
  · rw [List.find?_cons_of_neg (by simpa using fun same => isOwner same.symm)]
    rfl

/-- Every scope comes back as it is. -/
theorem reread_initial_true (scope : Option Scope) : (initial true).reread scope = scope := by
  cases scope with
  | none => rfl
  | some scope => rw [reread, Option.bind_some, serialOf_initial_true, scopeOf?_initial_true]

end ScopeDirectory

/-! ## The catalog that is written -/

/-- The account belongs to a scope, and that is not the one whose number stands for none. -/
def Account.hasOwner (account : Account) : Bool :=
  account.handle.scope.any fun scope => scope.id ≠ ScopeDirectory.unknownSerial

/-- The catalog in order: the accounts that have an owner, of several with one handle the last, at
the place of the first, and the current version. -/
def Catalog.migrated (catalog : Catalog) : Catalog :=
  { catalog with
    accounts := Accounts.lastOfEach (catalog.accounts.filter Account.hasOwner)
    version := currentVersion }

/-- The handle with its component as the flat form of that is read. -/
def Handle.flattened (handle : Handle) : Handle :=
  { handle with component := handle.component.reread }

def Account.flattened (account : Account) : Account :=
  { account with handle := account.handle.flattened }

/-- The catalog with every component as its flat form is read. -/
def Catalog.flattened (catalog : Catalog) : Catalog :=
  { catalog with
    defaultOutgoing := catalog.defaultOutgoing.map Handle.flattened
    simCallManager := catalog.simCallManager.map Handle.flattened
    accounts := catalog.accounts.map Account.flattened }

theorem Handle.flattened_eq
    {handle : Handle}
    (same : Component.ofText? handle.component.flatText = some handle.component) :
    handle.flattened = handle := by
  rw [flattened, Component.reread, same, Option.getD_some]

theorem Startup.normalise_initial_true (catalog : Catalog) :
    normalise (.initial true) catalog = catalog.migrated := by
  have live : hasLiveScope (.initial true) = Account.hasOwner := by
    funext account
    unfold hasLiveScope Account.hasOwner
    cases account.handle.scope with
    | none => rfl
    | some scope =>
        simp only [ScopeDirectory.serialOf_initial_true, Option.any_some, bne, decide_not]
        rfl
  rw [normalise, keptAccounts, live, Accounts.withoutDuplicates_eq_lastOfEach, Catalog.migrated]

/-- With nothing known about the scopes, only the component of a handle can change. -/
theorem Handle.reread_initial_true (handle : Handle) :
    handle.reread (.initial true) = handle.flattened := by
  rw [reread, ScopeDirectory.reread_initial_true, flattened]

/-- A manager that has been put under the scope of the process stays there. -/
theorem Handle.adopted_flattened_adopted (processScope : Scope) (handle : Handle) :
    (handle.adopted processScope).flattened.adopted processScope =
      (handle.adopted processScope).flattened := by
  obtain ⟨component, id, scope⟩ := handle
  cases scope with
  | some scope => rfl
  | none =>
      by_cases noChoice : component = noneSelected.component ∧ id = noneSelected.id
      · obtain ⟨rfl, rfl⟩ := noChoice
        have same : noneSelected.flattened = noneSelected := by decide
        show ((noneSelected.adopted processScope).flattened.adopted processScope) =
          (noneSelected.adopted processScope).flattened
        rw [adopted_noneSelected, same, adopted_noneSelected]
      · have own : (Handle.mk component id none).adopted processScope =
            ⟨component, id, some processScope⟩ := if_neg noChoice
        rw [own]
        rfl

namespace Catalog

variable {catalog : Catalog}

/-- A catalog whose components are what their flat forms are read as stays as it is. -/
theorem flattened_eq
    (same : ∀ handle ∈ catalog.storedHandles,
      Component.ofText? handle.component.flatText = some handle.component) :
    catalog.flattened = catalog := by
  have stays : ∀ handle ∈ catalog.storedHandles, handle.flattened = handle :=
    fun handle stored => Handle.flattened_eq (same handle stored)
  unfold storedHandles at stays
  simp only [List.forall_mem_append, Option.mem_toList, List.forall_mem_map] at stays
  obtain ⟨chosen, manages, listed⟩ := stays
  have defaultOutgoing : catalog.defaultOutgoing.map Handle.flattened = catalog.defaultOutgoing :=
    (Option.map_congr chosen).trans Option.map_id_apply
  have simCallManager : catalog.simCallManager.map Handle.flattened = catalog.simCallManager :=
    (Option.map_congr manages).trans Option.map_id_apply
  have accounts : catalog.accounts.map Account.flattened = catalog.accounts := by
    refine (List.map_congr_left fun account member => ?_).trans (List.map_id catalog.accounts)
    rw [Account.flattened, listed account member, id]
  rw [flattened, defaultOutgoing, simCallManager, accounts]

/-- What was read comes back as it is but for the components. -/
theorem IsRead.reread_initial_true
    {processScope : Scope}
    (read : catalog.IsRead (.initial true) processScope)
    (current : catalog.version = currentVersion) :
    catalog.reread (.initial true) processScope = catalog.flattened := by
  have defaultOutgoing :
      catalog.defaultOutgoing.map (Handle.reread (.initial true)) =
        catalog.defaultOutgoing.map Handle.flattened :=
    Option.map_congr fun handle _ => handle.reread_initial_true
  have simCallManager :
      (catalog.simCallManager.map fun handle =>
        (handle.reread (.initial true)).adopted processScope) =
          catalog.simCallManager.map Handle.flattened := by
    refine Option.map_congr fun handle manages => ?_
    obtain ⟨own, -, rfl⟩ := read.simCallManager handle manages
    rw [Handle.reread_initial_true, Handle.adopted_flattened_adopted]
  have accounts : catalog.accounts.map (Account.reread (.initial true)) =
      catalog.accounts.map Account.flattened := by
    refine List.map_congr_left fun account member => ?_
    rw [Account.reread, Handle.reread_initial_true,
      Icon.bind_reread?_of_shown (read.accounts account member).icon, Account.flattened]
  rw [reread, defaultOutgoing, simCallManager, accounts, flattened, current]

end Catalog

namespace Command

open PhoneAccounts.Console
open StateFile (LoadResult)

variable
  {tools : Tools}
  {home : FilePath}
  {order : Order}
  {files : Entry}
  {settings : Settings}

/-! ## What the command finds -/

theorem loadState_eq_ok_iff {found : LoadResult} :
    loadState tools (deviceOf settings files) = .ok found ↔
      StateFile.loadWith tools.parser
        (Registry.startReader (deviceOf settings files) Scope.owner) settings.stateFile files =
          .ok found :=
  mapError_eq_ok_iff

/-- The settings are the usual ones or those of the file that is given for them; but the state file
is the one of the order. -/
theorem settingsOf_eq_ok_iff :
    settingsOf tools home order files = .ok settings ↔
      ∃ given : Settings,
        (if order.settingsFile = "" then given = Settings.usual home
          else Settings.loadWith tools.settingsParser home order.settingsFile files =
            .ok given) ∧
        settings = { given with stateFile := FilePath.ofText order.stateFile } := by
  unfold settingsOf
  by_cases unnamed : order.settingsFile = ""
  · simp [unnamed, bind, Except.bind, eq_comm]
  · simp only [if_neg unnamed]
    constructor
    · intro valid
      obtain ⟨given, loaded, same⟩ := bind_eq_ok valid
      exact ⟨given, mapError_eq_ok_iff.mp loaded, (Except.ok.inj same).symm⟩
    · rintro ⟨given, loaded, rfl⟩
      rw [mapError_eq_ok_iff.mpr loaded]
      rfl

theorem stateFile_of_settingsOf (valid : settingsOf tools home order files = .ok settings) :
    settings.stateFile = FilePath.ofText order.stateFile := by
  obtain ⟨given, -, rfl⟩ := settingsOf_eq_ok_iff.mp valid
  rfl

theorem settings_load_of_standing
    {parser : Settings.Parser}
    {path : String}
    (loaded : Settings.loadWith parser home path files = .ok settings)
    {later : Entry}
    (stays : later.standing? (FilePath.ofText path).parts =
      files.standing? (FilePath.ofText path).parts) :
    Settings.loadWith parser home path later = .ok settings := by
  unfold Settings.loadWith at loaded ⊢
  by_cases slash : path.toList.getLast? = some '/'
  · rw [if_pos slash] at loaded
    exact absurd loaded (by simp)
  · rw [if_neg slash] at loaded ⊢
    cases read : files.read (FilePath.ofText path).parts with
    | error fault =>
        rw [read] at loaded
        exact absurd loaded (by simp)
    | ok content =>
        have again : later.read (FilePath.ofText path).parts = .ok content := by
          rw [Entry.read_eq_ok_iff] at read ⊢
          rw [stays, read]
        rw [read] at loaded
        rw [again]
        exact loaded

/-- The settings stay what they are as long as their file does. -/
theorem settingsOf_of_standing
    (valid : settingsOf tools home order files = .ok settings)
    {later : Entry}
    (stays : later.standing? (FilePath.ofText order.settingsFile).parts =
      files.standing? (FilePath.ofText order.settingsFile).parts) :
    settingsOf tools home order later = .ok settings := by
  obtain ⟨given, first, same⟩ := settingsOf_eq_ok_iff.mp valid
  refine settingsOf_eq_ok_iff.mpr ⟨given, ?_, same⟩
  by_cases unnamed : order.settingsFile = ""
  · rw [if_pos unnamed] at first ⊢
    exact first
  · rw [if_neg unnamed] at first ⊢
    exact settings_load_of_standing first stays

/-- A catalog is found only in a file. -/
theorem exists_read_of_loaded
    {catalog : Catalog}
    (valid : settingsOf tools home order files = .ok settings)
    (loads : loadState tools (deviceOf settings files) = .ok (.loaded catalog)) :
    ∃ content, files.read (FilePath.ofText order.stateFile).parts = .ok content := by
  have found := loadState_eq_ok_iff.mp loads
  obtain ⟨content, stands, -⟩ := ((StateFile.findsWhatStands _ _ _ _).loaded catalog).mp found
  rw [stateFile_of_settingsOf valid] at stands
  exact ⟨content, (Entry.read_eq_ok_iff _ _ _).mpr stands⟩

theorem answer_of_performs
    {response : Response}
    (accepted : acceptsStateFile order files = true)
    (performs : perform tools home order files = .ok response) :
    answer tools home (.perform order) files = response := by
  rw [answer, if_pos accepted, performs]

theorem answer_of_stopped
    {failure : Failure}
    (accepted : acceptsStateFile order files = true)
    (stops : perform tools home order files = .error failure) :
    answer tools home (.perform order) files = ⟨.stopped failure, [], files⟩ := by
  rw [answer, if_pos accepted, stops]

theorem perform_of_unloaded
    {found : LoadResult}
    (valid : settingsOf tools home order files = .ok settings)
    (loads : loadState tools (deviceOf settings files) = .ok found)
    (unloaded : found.catalog? = none) :
    perform tools home order files = .ok (refusal tools.screen order found files) := by
  simp only [perform, valid, loads, unloaded, bind, Except.bind]

theorem perform_of_loaded
    {catalog : Catalog}
    (valid : settingsOf tools home order files = .ok settings)
    (loads : loadState tools (deviceOf settings files) = .ok (.loaded catalog)) :
    perform tools home order files =
      match order.task with
      | .inspect => .ok (inspect tools.screen catalog files)
      | .migrate => migrate tools order (deviceOf settings files) catalog := by
  simp only [perform, valid, loads, StateFile.LoadResult.catalog?, bind, Except.bind]
  cases order.task <;> rfl

/-! ## The files that the command takes -/

/-- What is taken to be migrated is named, and not as a directory. -/
theorem isNamed_of_accepted
    (migrates : order.task = .migrate)
    (accepted : acceptsStateFile order files = true) :
    order.stateFile ≠ "" ∧ order.stateFile.toList.getLast? ≠ some '/' := by
  unfold acceptsStateFile at accepted
  rw [migrates] at accepted
  unfold standsAt at accepted
  constructor
  · intro unnamed
    simp [unnamed] at accepted
  · intro slash
    by_cases unnamed : order.stateFile = ""
    · simp [unnamed] at accepted
    · simp [unnamed, slash] at accepted

/-- A file that is named, and not as a directory, is taken for every task. -/
theorem accepts_of_read
    (named : order.stateFile ≠ "" ∧ order.stateFile.toList.getLast? ≠ some '/')
    {content : List UInt8}
    (read : files.read (FilePath.ofText order.stateFile).parts = .ok content) :
    acceptsStateFile order files = true := by
  have stands := (Entry.read_eq_ok_iff _ _ _).mp read
  have isThere : standsAt order.stateFile files = true := by
    rw [standsAt, if_neg named.1, if_neg named.2, Entry.exists?_eq_isSome, stands]
    rfl
  have noDirectory : files.isDirectoryAt (FilePath.ofText order.stateFile).parts = false := by
    rw [Entry.isDirectoryAt, read]
  rw [acceptsStateFile, isThere, noDirectory]
  rfl

/-! ## Notices -/

/-- A response that ends well just if its notice can be shown, and shows it then. -/
structure Tells
    (screen : Screen)
    (notice : Except DisplayFault (List Char))
    (response : Response) :
    Prop where
  exitCode : response.ending.exitCode = if (screen.shown? notice).isSome then 0 else 1
  lines : response.lines =
    ((screen.shown? notice).map (textLines screen.width)).getD []

theorem Tells.of_shown
    {screen : Screen}
    {notice : Except DisplayFault (List Char)}
    {response : Response}
    (tells : Tells screen notice response)
    {text : List Char}
    (shown : screen.shown? notice = some text) :
    response.ending.exitCode = 0 ∧ response.lines = textLines screen.width text := by
  obtain ⟨exitCode, lines⟩ := tells
  rw [shown] at exitCode lines
  exact ⟨exitCode, lines⟩

theorem files_closing
    (ending : Ending)
    (before : List (List Char))
    (lines : Except DisplayFault (List (List Char)))
    (files : Entry) :
    (Response.closing ending before lines files).files = files := by
  cases lines <;> rfl

theorem tells_closing
    (screen : Screen)
    (notice : Except DisplayFault (List Char))
    (files : Entry) :
    Tells screen notice (.closing .done [] (notice >>= screen.lines) files) := by
  cases notice with
  | error fault => exact ⟨rfl, rfl⟩
  | ok text =>
      have shows : screen.shown? (.ok text) = screen.plain? text := rfl
      have lines : (Except.ok text >>= screen.lines) = screen.lines text := rfl
      rw [lines, Screen.lines, Screen.plain]
      constructor <;> rw [shows] <;> cases screen.plain? text <;> rfl

/-- A refusal ends in failure, also when it cannot be shown. -/
theorem exitCode_refusal
    (screen : Screen)
    (order : Order)
    (found : LoadResult)
    (files : Entry) :
    (refusal screen order found files).ending.exitCode = 1 := by
  unfold refusal Response.closing
  dsimp only
  split <;> rfl

theorem isUnmarked_integerText (value : Int) : IsUnmarked (Text.integerText value) :=
  Yaml.forall_mem_integerText (by decide) value

theorem isUnmarked_naturalText (value : Nat) : IsUnmarked (Text.naturalText value) :=
  Yaml.forall_mem_naturalText (by decide) value

/-- That a file is up to date is told just if its version can be written. -/
theorem shown?_currentNotice (width : Nat) (version : Int) :
    (Screen.ofWidth width).shown? (currentNotice version) =
      if Text.isWritable version then
        some ("Already at version ".toList ++ Text.integerText version ++ ['.'])
      else none := by
  unfold currentNotice integerInMessage
  by_cases writable : Text.isWritable version = true
  · have unmarked : IsUnmarked
        ("Already at version ".toList ++ Text.integerText version ++ ['.']) :=
      (IsUnmarked.append (by decide) (isUnmarked_integerText version)).append (by decide)
    have marks : "[green]Already at version ".toList =
        "[green]".toList ++ "Already at version ".toList := by decide
    have closes : ".[/]".toList = ['.'] ++ "[/]".toList := by decide
    have shown := plainText?_styled unmarked
    rw [if_pos writable, if_pos writable, ← shown, marks, closes]
    simp only [List.append_assoc]
    rfl
  · rw [if_neg writable, if_neg writable]
    rfl

/-- What was migrated is told of an ordinary path just if the old version can be written. -/
theorem shown?_migratedNotice
    (width : Nat)
    {stateFile : String}
    (unmarked : IsUnmarked stateFile.toList)
    (before : Int)
    (count : Nat) :
    (Screen.ofWidth width).shown? (migratedNotice stateFile before currentVersion count) =
      if Text.isWritable before then
        some ("  v".toList ++ (" Migrated ".toList ++ stateFile.toList ++
          " from version ".toList ++ Text.integerText before ++
          " to ".toList ++ Text.integerText currentVersion ++
          " (".toList ++ Text.naturalText count ++ " accounts)".toList))
      else none := by
  unfold migratedNotice integerInMessage
  by_cases writable : Text.isWritable before = true
  · have plain : IsUnmarked (" Migrated ".toList ++ stateFile.toList ++
        " from version ".toList ++ Text.integerText before ++
        " to ".toList ++ Text.integerText currentVersion ++
        " (".toList ++ Text.naturalText count ++ " accounts)".toList) := by
      repeat' apply IsUnmarked.append
      all_goals first
        | exact unmarked
        | exact isUnmarked_integerText _
        | exact isUnmarked_naturalText _
        | decide
    have marks : "  [green]v[/] Migrated ".toList =
        "  ".toList ++ ("[green]".toList ++ ("v".toList ++ ("[/]".toList ++
          " Migrated ".toList))) := by decide
    have current : Text.isWritable currentVersion = true := by decide
    rw [if_pos writable, if_pos writable, if_pos current, ← plainText?_checked plain, marks]
    simp only [List.append_assoc]
    rfl
  · rw [if_neg writable, if_neg writable]
    rfl

/-! ## Migrating -/

theorem migrate_of_upToDate
    {device : Device}
    {catalog : Catalog}
    (upToDate : currentVersion ≤ catalog.version) :
    migrate tools order device catalog =
      .ok (.closing .done [] (currentNotice catalog.version >>= tools.screen.lines)
        device.files) :=
  if_pos upToDate

theorem migrate_of_older
    {device after : Device}
    {catalog : Catalog}
    (older : catalog.version < currentVersion)
    {registry : Registry}
    (begun : Registry.startWith tools.parser device Scope.owner = .ok (registry, after)) :
    migrate tools order device catalog =
      .ok (.closing .done []
        (migratedNotice order.stateFile catalog.version registry.catalog.version
          registry.catalog.accounts.length >>= tools.screen.lines) after.files) := by
  rw [migrate, if_neg (Int.not_le.mpr older), begun]
  rfl

theorem migrate_of_stopped
    {device : Device}
    {catalog : Catalog}
    (older : catalog.version < currentVersion)
    {stop : StateFile.Stop}
    (stops : Registry.startWith tools.parser device Scope.owner = .error stop) :
    migrate tools order device catalog = .error (.stateFile stop) := by
  rw [migrate, if_neg (Int.not_le.mpr older), stops]
  rfl

/-- The response to an order that migrates a catalog: how the file has changed, and how the command
goes on from there. -/
structure Migrates
    (tools : Tools)
    (home : FilePath)
    (order : Order)
    (files : Entry)
    (settings : Settings)
    (catalog : Catalog)
    (response : Response) :
    Prop where
  tells : Tells tools.screen
    (migratedNotice order.stateFile catalog.version currentVersion
      catalog.migrated.flattened.accounts.length) response
  content : response.files.read (FilePath.ofText order.stateFile).parts =
    .ok (StateFile.encode (.initial true) catalog.migrated)
  others : ∀ place, place ≠ (FilePath.ofText order.stateFile).parts →
    response.files.standing? place = files.standing? place
  settings : (FilePath.ofText order.settingsFile).parts ≠
      (FilePath.ofText order.stateFile).parts →
    settingsOf tools home order response.files = .ok settings
  again : ∀ other : Order, other.stateFile = order.stateFile →
    ∀ otherSettings, settingsOf tools home other response.files = .ok otherSettings →
      loadState tools (deviceOf otherSettings response.files) =
          .ok (.loaded catalog.migrated.flattened) ∧
        (other.task = .inspect →
          answer tools home (.perform other) response.files =
            inspect tools.screen catalog.migrated.flattened response.files) ∧
        (other.task = .migrate →
          Tells tools.screen (currentNotice currentVersion)
              (answer tools home (.perform other) response.files) ∧
            (answer tools home (.perform other) response.files).files = response.files)

/-- What a file holds to which a migrated catalog was saved, whatever the other settings are. -/
theorem loadState_of_migrated
    {catalog : Catalog}
    (read : catalog.IsRead (.initial true) Scope.owner)
    (readsBack : StateFile.ReadsBackWith tools.parser (.initial true) catalog.migrated)
    (content : files.read settings.stateFile.parts =
      .ok (StateFile.encode (.initial true) catalog.migrated)) :
    loadState tools (deviceOf settings files) = .ok (.loaded catalog.migrated.flattened) := by
  have migratedRead : catalog.migrated.IsRead (.initial true) Scope.owner := by
    rw [← Startup.normalise_initial_true]
    exact read.normalise
  rw [loadState_eq_ok_iff, StateFile.loadWith_of_stored content readsBack,
    StateFile.storedResult_of_readable fun handle stored => migratedRead.isReadable stored]
  exact congrArg (fun catalog => Except.ok (LoadResult.loaded catalog))
    (migratedRead.reread_initial_true rfl)

/-- Where the catalog is up to date, that is told and nothing else is done. -/
theorem tells_of_upToDate
    {catalog : Catalog}
    (migration : order.task = .migrate)
    (accepted : acceptsStateFile order files = true)
    (valid : settingsOf tools home order files = .ok settings)
    (loads : loadState tools (deviceOf settings files) = .ok (.loaded catalog))
    (upToDate : currentVersion ≤ catalog.version) :
    Tells tools.screen (currentNotice catalog.version)
        (answer tools home (.perform order) files) ∧
      (answer tools home (.perform order) files).files = files := by
  have performs := perform_of_loaded valid loads
  rw [migration, migrate_of_upToDate upToDate] at performs
  rw [answer_of_performs accepted performs]
  exact ⟨tells_closing _ _ _, files_closing _ _ _ _⟩

/-- An inspection shows what is found. -/
theorem answer_of_inspection
    {catalog : Catalog}
    (inspection : order.task = .inspect)
    (accepted : acceptsStateFile order files = true)
    (valid : settingsOf tools home order files = .ok settings)
    (loads : loadState tools (deviceOf settings files) = .ok (.loaded catalog)) :
    answer tools home (.perform order) files = inspect tools.screen catalog files := by
  have performs := perform_of_loaded valid loads
  rw [inspection] at performs
  exact answer_of_performs accepted performs

/-- A catalog of an older version is put in order and saved, and then that is told. -/
theorem answer_of_older
    {catalog : Catalog}
    (migration : order.task = .migrate)
    (accepted : acceptsStateFile order files = true)
    (valid : settingsOf tools home order files = .ok settings)
    (loads : loadState tools (deviceOf settings files) = .ok (.loaded catalog))
    (older : catalog.version < currentVersion)
    {later : Entry}
    (saved : StateFile.save? (.initial true) (FilePath.ofText order.stateFile) catalog.migrated
      files = some later) :
    answer tools home (.perform order) files =
      .closing .done []
        (migratedNotice order.stateFile catalog.version currentVersion
          catalog.migrated.flattened.accounts.length >>= tools.screen.lines) later := by
  have found := loadState_eq_ok_iff.mp loads
  have place := stateFile_of_settingsOf valid
  have normalised := Startup.normalise_initial_true catalog
  -- The registry reads the file against what the command reads it against, so it finds the same.
  have free : ¬ Startup.IsBlocked (deviceOf settings files).directory (.loaded catalog) := by
    rintro ⟨-, unwritable⟩
    have writable := StateFile.isWritable_of_save?_eq_some saved
    rw [← normalised] at writable
    exact nomatch unwritable.symm.trans writable
  have starts := Registry.startWith_eq_ok found free
  obtain ⟨inOrder, begins⟩ := Registry.start_of_loaded starts found
  have isMigrated := inOrder.trans normalised
  obtain ⟨after, -⟩ := begins.rewrites (.inl older) later (by
    rw [isMigrated]
    exact place ▸ saved)
  have performs := perform_of_loaded valid loads
  rw [migration, migrate_of_older older starts, isMigrated, after] at performs
  rw [answer_of_performs accepted performs, Catalog.flattened, List.length_map]
  rfl

/-- After that there is nothing left to do. -/
theorem migrates_of_older
    {catalog : Catalog}
    (migration : order.task = .migrate)
    (accepted : acceptsStateFile order files = true)
    (valid : settingsOf tools home order files = .ok settings)
    (loads : loadState tools (deviceOf settings files) = .ok (.loaded catalog))
    (older : catalog.version < currentVersion)
    {later : Entry}
    (saved : StateFile.save? (.initial true) (FilePath.ofText order.stateFile) catalog.migrated
      files = some later)
    (readsBack : StateFile.ReadsBackWith tools.parser (.initial true) catalog.migrated) :
    Migrates tools home order files settings catalog
      (answer tools home (.perform order) files) := by
  have content := StateFile.read_of_save?_eq_some saved
  obtain ⟨old, read⟩ := exists_read_of_loaded valid loads
  have stands : (files.standing? (FilePath.ofText order.stateFile).parts).isSome = true := by
    rw [(Entry.read_eq_ok_iff _ _ _).mp read]
    rfl
  have others (elsewhere : List String)
      (other : elsewhere ≠ (FilePath.ofText order.stateFile).parts) :
      later.standing? elsewhere = files.standing? elsewhere :=
    StateFile.standing?_of_save?_eq_some saved stands other
  rw [answer_of_older migration accepted valid loads older saved]
  constructor
  · exact tells_closing _ _ _
  · rw [files_closing]
    exact content
  · rw [files_closing]
    exact others
  · rw [files_closing]
    exact fun elsewhere => settingsOf_of_standing valid (others _ elsewhere)
  · rw [files_closing]
    intro other same otherSettings otherValid
    have otherPlace := stateFile_of_settingsOf otherValid
    rw [← same] at content
    have named := isNamed_of_accepted migration accepted
    rw [← same] at named
    have again := loadState_of_migrated
      (StateFile.isRead_of_loadWith (loadState_eq_ok_iff.mp loads)) readsBack
      (otherPlace ▸ content)
    have otherAccepted := accepts_of_read named content
    refine ⟨again, fun inspection => ?_, fun migration => ?_⟩
    · exact answer_of_inspection inspection otherAccepted otherValid again
    · exact tells_of_upToDate migration otherAccepted otherValid again (Int.le_refl currentVersion)

/-- Migrating does to a state file what has to be done, and does it once.

Where no catalog is found, the command fails and leaves the files; where the catalog is up to date,
it leaves them too, and ends well just if it can tell so.  What an inspection shows before is the
catalog that is found.  If that is of an older version, and what is saved for it is read back as it
was written, the file is replaced and nothing else: with the current version, the two choices, and
the accounts that have an owner, of several with one handle the last at the place of the first.  The
notice tells how many they are, if it can be shown.  From then on an inspection shows this catalog,
with every component as its flat form is read, and a migration finds nothing to do, whatever
settings are given.  A catalog that cannot be written out stays as it is, and the command fails. -/
theorem migration_upgradesOnce
    {found : LoadResult}
    (migration : order.task = .migrate)
    (accepted : acceptsStateFile order files = true)
    (valid : settingsOf tools home order files = .ok settings)
    (loads : loadState tools (deviceOf settings files) = .ok found) :
    let response := answer tools home (.perform order) files
    (found.catalog? = none → response.ending.exitCode = 1 ∧ response.files = files) ∧
      ∀ catalog, found.catalog? = some catalog →
        answer tools home (.perform { order with task := .inspect }) files =
            inspect tools.screen catalog files ∧
          (currentVersion ≤ catalog.version →
            Tells tools.screen (currentNotice catalog.version) response ∧
              response.files = files) ∧
          (catalog.version < currentVersion →
            StateFile.isWritable (.initial true) catalog.migrated = false →
              response = ⟨.stopped (.stateFile .longInteger), [], files⟩) ∧
          (catalog.version < currentVersion →
            (StateFile.save? (.initial true) (FilePath.ofText order.stateFile) catalog.migrated
                files).isSome = true →
            StateFile.ReadsBackWith tools.parser (.initial true) catalog.migrated →
              Migrates tools home order files settings catalog response) ∧
          ((∀ handle ∈ catalog.migrated.storedHandles,
              Component.ofText? handle.component.flatText = some handle.component) →
            catalog.migrated.flattened = catalog.migrated) := by
  intro response
  constructor
  · intro unloaded
    have refused := answer_of_performs accepted (perform_of_unloaded valid loads unloaded)
    show (answer tools home (.perform order) files).ending.exitCode = 1 ∧
      (answer tools home (.perform order) files).files = files
    rw [refused]
    exact ⟨exitCode_refusal _ _ _ _, files_closing _ _ _ _⟩
  · intro catalog given
    obtain rfl := StateFile.LoadResult.eq_loaded_of_catalog? given
    refine ⟨?_, tells_of_upToDate migration accepted valid loads, ?_, ?_, Catalog.flattened_eq⟩
    · obtain ⟨content, read⟩ := exists_read_of_loaded valid loads
      have named := isNamed_of_accepted migration accepted
      exact answer_of_inspection rfl (accepts_of_read named read) valid loads
    · intro older unwritable
      have blocked : Startup.IsBlocked (deviceOf settings files).directory (.loaded catalog) :=
        Registry.isBlocked_iff.mpr ⟨catalog, rfl, .inl older, by
          rw [← unwritable, ← Startup.normalise_initial_true]
          rfl⟩
      have stops := Registry.startWith_eq_error_iff.mpr
        (.inr ⟨_, loadState_eq_ok_iff.mp loads, blocked, rfl⟩)
      have performs := perform_of_loaded valid loads
      rw [migration, migrate_of_stopped older stops] at performs
      exact answer_of_stopped accepted performs
    · intro older saves readsBack
      obtain ⟨later, saved⟩ := Option.isSome_iff_exists.mp saves
      exact migrates_of_older migration accepted valid loads older saved readsBack

/-! ## Samples -/

def sampleHome : FilePath := ⟨1, ["home"]⟩

/-- The command, given on the files of a directory. -/
def sampleMigration (files : Entry) : Response :=
  run (.ofWidth 80) sampleHome ["migrate", "state.yaml"] files

def sampleResponse : Response := sampleMigration Registry.disorderDevice.files

/-- A file of version 4 is migrated: of three accounts one is left, and when the command is given
again it finds nothing to do. -/
theorem migration_ofDisorder :
    sampleResponse.ending.exitCode = 0 ∧
      sampleResponse.lines =
        textLines 80 "  v Migrated state.yaml from version 4 to 5 (1 accounts)".toList ∧
      sampleResponse.files.read ["state.yaml"] =
        .ok (StateFile.encode (.initial true) Registry.orderedCatalog) ∧
      (sampleMigration sampleResponse.files).ending.exitCode = 0 ∧
      (sampleMigration sampleResponse.files).lines =
        textLines 80 "Already at version 5.".toList ∧
      (sampleMigration sampleResponse.files).files = sampleResponse.files := by
  let order : Order := ⟨.migrate, "state.yaml", ""⟩
  let settings : Settings := { Settings.usual sampleHome with stateFile := ⟨0, ["state.yaml"]⟩ }
  have asks : Request.ofArguments ["migrate", "state.yaml"] = .perform order := by decide +kernel
  have answers (files : Entry) :
      answer (.ofWidth 80) sampleHome (.perform order) files = sampleMigration files := by
    rw [sampleMigration, run, asks]
  have isSample : sampleMigration Registry.disorderDevice.files = sampleResponse := rfl
  have valid (files : Entry) : settingsOf (.ofWidth 80) sampleHome order files = .ok settings :=
    settingsOf_eq_ok_iff.mpr ⟨Settings.usual sampleHome, rfl, by decide⟩
  have loads : loadState (.ofWidth 80) (deviceOf settings Registry.disorderDevice.files) =
      .ok (.loaded Registry.disorderCatalog) :=
    loadState_eq_ok_iff.mpr (Registry.load_disorderFile true)
  have migrated : Registry.disorderCatalog.migrated = Registry.orderedCatalog := by decide +kernel
  have readsBack : StateFile.ReadsBack (.initial true) Registry.disorderCatalog.migrated := by
    rw [migrated]
    decide +kernel
  obtain ⟨-, loaded⟩ :=
    migration_upgradesOnce rfl (by decide +kernel) (valid Registry.disorderDevice.files) loads
  obtain ⟨-, -, -, migrates, -⟩ := loaded Registry.disorderCatalog rfl
  have migrates := migrates (by decide) (by rw [migrated]; decide +kernel) readsBack
  rw [answers, isSample] at migrates
  obtain ⟨-, -, next⟩ := migrates.again order rfl settings (valid _)
  obtain ⟨tellsAgain, stays⟩ := next rfl
  rw [answers] at tellsAgain stays
  have told := (shown?_migratedNotice 80 (show IsUnmarked order.stateFile.toList by decide) 4
    Registry.disorderCatalog.migrated.flattened.accounts.length).trans (if_pos (by decide))
  have toldAgain := (shown?_currentNotice 80 currentVersion).trans (if_pos (by decide))
  obtain ⟨exitCode, lines⟩ := migrates.tells.of_shown told
  obtain ⟨exitCodeAgain, linesAgain⟩ := tellsAgain.of_shown toldAgain
  refine ⟨exitCode, lines.trans (by decide +kernel), ?_, exitCodeAgain,
    linesAgain.trans (by decide +kernel), stays⟩
  have place : (FilePath.ofText order.stateFile).parts = ["state.yaml"] := by decide +kernel
  rw [← migrated, ← place]
  exact migrates.content

/-- What a file says that tells its version and nothing else. -/
def versionTree (version : Int) : Tree :=
  .mapping [(.text StateFile.Key.root, .mapping [
    (.text StateFile.Key.version, .integer version)])]

/-- Where the version takes 4301 digits, the command fails: on a later version without having done
anything, on an earlier one after the file has been written in the current version. -/
theorem boundlessVersion_failsMigration :
    let files : Entry := .directory [("state.yaml", .file [])]
    let tools (version : Int) : Tools :=
      ⟨fun _ => .ok (versionTree version), Settings.treeOfText?, .ofWidth 80⟩
    let device := deviceOf { Settings.usual sampleHome with stateFile := ⟨0, ["state.yaml"]⟩ } files
    let response (version : Int) :=
      run (tools version) sampleHome ["migrate", "state.yaml"] files
    let later : Int := Number.tenTo 4300
    let earlier : Int := -Number.tenTo 4300
    loadState (tools later) device = .ok (.loaded { version := later }) ∧
      (response later).ending.exitCode = 1 ∧
      (response later).files.read ["state.yaml"] = .ok [] ∧
      loadState (tools earlier) device = .ok (.loaded { version := earlier }) ∧
      (response earlier).ending.exitCode = 1 ∧
      (response earlier).files.read ["state.yaml"] =
        .ok (StateFile.encode (.initial true) .empty) := by
  intro files tools device response later earlier
  refine ⟨eq_ok_of_toOption ?_, ?_, ?_, eq_ok_of_toOption ?_, ?_, ?_⟩
  · decide +kernel
  · decide +kernel
  · decide +kernel
  · decide +kernel
  · decide +kernel
  · decide +kernel

end Command

end PhoneAccounts

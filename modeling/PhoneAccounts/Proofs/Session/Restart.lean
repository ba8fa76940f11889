import PhoneAccounts.Proofs.Device.FileTree
import PhoneAccounts.Proofs.Session.OrderedMap
import PhoneAccounts.Proofs.StateFile.Storable
import PhoneAccounts.Proofs.Steps

/-!
Contract: a restart changes nothing.

As long as the registry alone writes its file, the file mirrors the catalog: there is no file
and the catalog is empty, or the file stores the catalog.  A new registry then begins with
the catalog in use, and finds nothing to correct.

Owns: `Undisturbed` moves and runs, `Mirrored`, and the restart of a mirrored session.

Does not own: what happens when a save fails or the file is written from outside.
-/

namespace PhoneAccounts

/-- The adjustment leaves the scopes and the files as they are. -/
def Adjustment.leavesStore : Adjustment → Bool
  | .addScope _ _ _ => false
  | .removeScope _ => false
  | .deleteFile => false
  | .blockFile => false
  | _ => true

namespace Session

/-- What a move must not do: store an account that is not storable, fail to save, save a text
that is not read back, write the file from outside, or change the scopes. -/
def Undisturbed (session : Session) : Move → Prop
  | .change caller change =>
      ∀ effect, session.registry.effectOf session.device caller change = .ok effect →
        (∀ account, change = .register account →
          account.Storable session.device.directory) ∧
        (StateFile.save? session.device.directory session.registry.stateFile effect.catalog
          session.device.files).isSome = true ∧
        StateFile.ReadsBack session.device.directory effect.catalog
  | .adjust adjustment => adjustment.leavesStore = true
  | .writeFile _ => False
  | .restart _ => True
  | .log _ => True

/-- Every move of a run is undisturbed where it is made. -/
def RunsUndisturbed (session : Session) : List Move → Prop
  | [] => True
  | move :: rest => session.Undisturbed move ∧ (session.after move).RunsUndisturbed rest

/-- The catalog is storable, and the file holds it, unless it is empty and there is none. -/
structure Mirrored (session : Session) : Prop where
  inUse : session.registry.catalog.InUse
  storable : session.registry.catalog.Storable session.device.directory
  place : session.registry.stateFile = session.device.settings.stateFile
  file :
    (session.device.files.read session.registry.stateFile.parts = .error .absent ∧
        session.registry.catalog = .empty) ∨
      (session.device.files.read session.registry.stateFile.parts =
          .ok (StateFile.encode session.device.directory session.registry.catalog) ∧
        StateFile.ReadsBack session.device.directory session.registry.catalog)

end Session

/-! ## What is stored stays storable -/

namespace Registry

variable
  {registry : Registry}
  {device : Device}
  {directory : ScopeDirectory}
  {caller : Scope}
  {effect : Effect}

/-- What a change stores is storable if what it registers is. -/
theorem storable_effectOf
    {change : Change}
    (storable : registry.catalog.Storable directory)
    (registered : ∀ account, change = .register account → account.Storable directory)
    (accepted : registry.effectOf device caller change = .ok effect) :
    effect.catalog.Storable directory := by
  have known : ∀ account ∈ registry.catalog.accounts, account.handle.Storable directory :=
    fun account member => (storable.accounts account member).handle
  obtain ⟨choices, managers⟩ := chosen_effectOf accepted
  refine ⟨?_, ?_, ?_⟩
  · intro account member
    rcases mem_effectOf accepted member with
      before | ⟨added, isAdded, rfl⟩ | ⟨switched, before, enabled, -, rfl⟩
    · exact storable.accounts account before
    · have stored := registered added isAdded
      exact ⟨stored.handle, stored.icon⟩
    · have stored := storable.accounts switched before
      exact ⟨stored.handle, stored.icon⟩
  · intro chosen isChosen
    -- A choice is made among the accounts that are there.
    rcases choices chosen isChosen with before | ⟨account, member, rfl⟩
    · exact storable.defaultOutgoing chosen before
    · exact known account member
  · intro manager manages
    rcases managers manager manages with before | none | ⟨account, member, rfl⟩
    · exact storable.simCallManager manager before
    · exact .inl none
    · exact .inr (known account member)

end Registry

namespace Session

variable {session : Session}

/-! ## Starting again -/

/-- The file of a mirrored session gives the catalog in use, without anything to save. -/
theorem Mirrored.loads (mirrored : session.Mirrored) (processScope : Scope) :
    ∃ loaded,
      StateFile.load (Registry.startReader session.device processScope)
          session.device.settings.stateFile session.device.files = .ok loaded ∧
        Startup.ofLoaded session.device.directory loaded = (session.registry.catalog, false) := by
  have file := mirrored.file
  rw [mirrored.place] at file
  rcases file with ⟨absent, empty⟩ | ⟨saved, readsBack⟩
  · refine ⟨.absent, ?_, by rw [empty]; rfl⟩
    rw [StateFile.load, StateFile.loadWith, absent]
  · have current := mirrored.inUse.current
    refine ⟨.loaded session.registry.catalog,
      StateFile.loadWith_of_saved saved readsBack mirrored.storable current, ?_⟩
    apply Startup.ofLoaded_of_inUse mirrored.inUse
    intro account member
    obtain ⟨scope, named, known, -⟩ := (mirrored.storable.accounts account member).handle.scope
    rw [Startup.hasLiveScope, named]
    exact bne_iff_ne.mpr known

theorem Mirrored.starts (mirrored : session.Mirrored) (processScope : Scope) :
    Registry.start session.device processScope =
      .ok (⟨session.registry.catalog, processScope, processScope,
        Registry.upgradesOf session.device.settings, session.device.settings.stateFile⟩,
        session.device) := by
  obtain ⟨loaded, found, asItIs⟩ := mirrored.loads processScope
  have free := Startup.not_isBlocked_of_unsaved (congrArg Prod.snd asItIs)
  refine (Registry.startWith_eq_ok found free).trans ?_
  rw [Registry.begun, asItIs]
  rfl

/-! ## Moves -/

theorem Mirrored.carriedOut
    (mirrored : session.Mirrored)
    (caller : Scope)
    (change : Change)
    (undisturbed : session.Undisturbed (.change caller change)) :
    (session.carriedOut caller change).Mirrored := by
  cases decided : session.registry.effectOf session.device caller change with
  | error refusal =>
      rw [carriedOut_of_refused decided]
      exact mirrored
  | ok effect =>
      obtain ⟨registered, saves, readsBack⟩ := undisturbed effect decided
      obtain ⟨files, saved⟩ := Option.isSome_iff_exists.mp saves
      obtain ⟨directory, settings, written⟩ :=
        Registry.commit_snd session.registry session.device effect
      rw [saved, Option.getD_some] at written
      have inUse := inUse_carriedOut mirrored.inUse caller change
      rw [carriedOut_of_accepted decided] at inUse ⊢
      have place := mirrored.place.trans (congrArg Settings.stateFile settings.symm)
      refine ⟨inUse, ?_, place, .inr ?_⟩
      · rw [directory]
        exact Registry.storable_effectOf mirrored.storable registered decided
      · -- A save replaces the whole file, so it does not matter what the file held.
        rw [directory, written]
        exact ⟨StateFile.read_of_save?_eq_some saved, readsBack⟩

theorem Mirrored.adjust
    (mirrored : session.Mirrored)
    {adjustment : Adjustment}
    (leavesStore : adjustment.leavesStore = true) :
    (session.adjust adjustment).Mirrored := by
  obtain ⟨inUse, storable, place, file⟩ := mirrored
  cases adjustment with
  | addScope scope serial parent => exact absurd leavesStore Bool.false_ne_true
  | removeScope scope => exact absurd leavesStore Bool.false_ne_true
  | deleteFile => exact absurd leavesStore Bool.false_ne_true
  | blockFile => exact absurd leavesStore Bool.false_ne_true
  | _ => exact ⟨inUse, storable, place, file⟩

theorem Mirrored.restarted (mirrored : session.Mirrored) (processScope : Scope) :
    (session.restarted processScope).Mirrored := by
  have file := mirrored.file
  rw [mirrored.place] at file
  unfold Session.restarted Session.start
  rw [mirrored.starts]
  exact ⟨mirrored.inUse, mirrored.storable, rfl, file⟩

/-- An undisturbed move keeps the file a mirror of the catalog. -/
theorem Mirrored.after
    (mirrored : session.Mirrored)
    (move : Move)
    (undisturbed : session.Undisturbed move) :
    (session.after move).Mirrored := by
  cases move with
  | change caller change => exact mirrored.carriedOut caller change undisturbed
  | adjust adjustment => exact mirrored.adjust undisturbed
  | writeFile content => exact undisturbed.elim
  | restart processScope => exact mirrored.restarted processScope
  | log lines => exact ⟨mirrored.inUse, mirrored.storable, mirrored.place, mirrored.file⟩

theorem Mirrored.makes
    (mirrored : session.Mirrored)
    (moves : List Move)
    (undisturbed : session.RunsUndisturbed moves) :
    (session.makes moves).Mirrored := by
  induction moves generalizing session with
  | nil =>
      rw [makes_nil]
      exact mirrored
  | cons move rest inductionHypothesis =>
      rw [makes_cons]
      exact inductionHypothesis (mirrored.after move undisturbed.1) undisturbed.2

/-! ## Runs -/

/-- Every beginning of an undisturbed run is undisturbed. -/
theorem RunsUndisturbed.append_left
    {before rest : List Move}
    (undisturbed : session.RunsUndisturbed (before ++ rest)) :
    session.RunsUndisturbed before := by
  induction before generalizing session with
  | nil => trivial
  | cons move before inductionHypothesis =>
      exact ⟨undisturbed.1, inductionHypothesis undisturbed.2⟩

/-- A session that begins without a file is mirrored. -/
theorem mirrored_start
    {device : Device}
    {processScope : Scope}
    (started : start device processScope = .ok session)
    (absent : device.files.read device.settings.stateFile.parts = .error .absent) :
    session.Mirrored := by
  have found :
      StateFile.load (Registry.startReader device processScope) device.settings.stateFile
        device.files = .ok .absent := by
    rw [StateFile.load, StateFile.loadWith, absent]
  obtain ⟨registry, device', begun, rfl⟩ := start_eq_ok started
  rw [Registry.start,
    Registry.startWith_eq_ok found (Startup.not_isBlocked_of_unsaved rfl)] at begun
  obtain ⟨rfl, rfl⟩ := Prod.mk.inj (Except.ok.inj begun)
  exact ⟨Startup.inUse_empty, Catalog.storable_empty _, rfl, .inl ⟨absent, rfl⟩⟩

/-- After every beginning of an undisturbed run on a device without a state file, a new
registry of any process begins with the catalog in use, and neither the file nor anything
else on the device is touched. -/
theorem restart_begins_with_catalog_in_use
    {device : Device}
    {processScope : Scope}
    {first : Session}
    (started : start device processScope = .ok first)
    (absent : device.files.read device.settings.stateFile.parts = .error .absent)
    {moves : List Move}
    (undisturbed : first.RunsUndisturbed moves)
    {before : List Move}
    (begins : before <+: moves)
    (newScope : Scope) :
    ∃ loaded fresh,
      StateFile.load (Registry.startReader (first.makes before).device newScope)
          (first.makes before).device.settings.stateFile (first.makes before).device.files =
        .ok loaded ∧
      Startup.ofLoaded (first.makes before).device.directory loaded =
        ((first.makes before).registry.catalog, false) ∧
      Registry.start (first.makes before).device newScope =
        .ok (fresh, (first.makes before).device) ∧
      fresh.catalog = (first.makes before).registry.catalog := by
  obtain ⟨rest, rfl⟩ := begins
  have mirrored := (mirrored_start started absent).makes before undisturbed.append_left
  obtain ⟨loaded, found, asItIs⟩ := mirrored.loads newScope
  exact ⟨loaded, _, found, asItIs, mirrored.starts newScope, rfl⟩

/-! ## A sample -/

theorem undisturbed_of_accepted
    {caller : Scope}
    {change : Change}
    (effect : Effect)
    (accepted : (session.registry.effectOf session.device caller change).toOption = some effect)
    (registered : ∀ account, change = .register account →
      account.Storable session.device.directory)
    (saves : (StateFile.save? session.device.directory session.registry.stateFile effect.catalog
      session.device.files).isSome = true)
    (readsBack : StateFile.ReadsBack session.device.directory effect.catalog) :
    session.Undisturbed (.change caller change) := by
  intro other decided
  rw [eq_ok_of_toOption accepted] at decided
  obtain rfl := Except.ok.inj decided
  exact ⟨registered, saves, readsBack⟩

/-- An account is registered, chosen and unregistered, and the registry starts again. -/
def sampleMoves : List Move :=
  [.change Scope.owner (.register (sampleAccount Scope.owner)),
    .change Scope.owner (.setDefaultOutgoing (sampleAccount Scope.owner).handle),
    .change Scope.owner (.unregister (sampleAccount Scope.owner).handle),
    .restart ⟨10⟩]

theorem storable_sampleAccount :
    (sampleAccount Scope.owner).Storable sampleDevice.directory where
  handle := ⟨by decide +kernel, Scope.owner, rfl, by decide, by decide⟩
  icon := by simp [sampleAccount]

theorem sampleMoves_undisturbed : sampleSession.RunsUndisturbed sampleMoves := by
  let account := sampleAccount Scope.owner
  let chosen : Catalog := { defaultOutgoing := account.handle, accounts := [account] }
  refine ⟨?_, ?_, ?_, trivial, trivial⟩
  · apply undisturbed_of_accepted (.ofAccounts {} [account])
    · decide +kernel
    · rintro other ⟨⟩
      exact storable_sampleAccount
    · decide +kernel
    · decide +kernel
  · apply undisturbed_of_accepted { catalog := chosen, event := .defaultOutgoing }
    · decide +kernel
    · rintro other ⟨⟩
    · decide +kernel
    · decide +kernel
  · apply undisturbed_of_accepted (.ofAccounts chosen [])
    · decide +kernel
    · rintro other ⟨⟩
    · decide +kernel
    · decide +kernel

/-- In the end the choice is stale, and a new registry begins with it. -/
theorem sampleMoves_restart :
    (sampleSession.makes sampleMoves).registry.catalog =
        { defaultOutgoing := (sampleAccount Scope.owner).handle } ∧
      ∃ loaded fresh,
        StateFile.load
            (Registry.startReader (sampleSession.makes sampleMoves).device Scope.owner)
            (sampleSession.makes sampleMoves).device.settings.stateFile
            (sampleSession.makes sampleMoves).device.files = .ok loaded ∧
        Startup.ofLoaded (sampleSession.makes sampleMoves).device.directory loaded =
          ((sampleSession.makes sampleMoves).registry.catalog, false) ∧
        Registry.start (sampleSession.makes sampleMoves).device Scope.owner =
          .ok (fresh, (sampleSession.makes sampleMoves).device) ∧
        fresh.catalog = (sampleSession.makes sampleMoves).registry.catalog :=
  ⟨by decide +kernel,
    restart_begins_with_catalog_in_use start_sampleDevice rfl sampleMoves_undisturbed
      (List.prefix_refl sampleMoves) Scope.owner⟩

end Session

end PhoneAccounts

import PhoneAccounts.Proofs.Session.Stored
import PhoneAccounts.Proofs.StateFile.Decoded

/-!
Contract: whether the registry can read the file that it writes.

Only a registration brings a component into the catalog that no file gave, and it takes any.
While all registered components can be read, the file can be loaded at every moment after the
first accepted change.  A change after which the catalog names a component that cannot be read
leaves a file that is corrupt to every reader.

Owns: where the handles of a catalog come from, `StaysReadable`, and what loading finds after
the changes of a run.

Does not own: that a catalog that is loaded is the one that was saved (see
`PhoneAccounts.Proofs.Session.Restart`).
-/

namespace PhoneAccounts

/-- Every handle in the catalog can be read back. -/
def Catalog.IsReadable (catalog : Catalog) : Prop :=
  ∀ handle ∈ catalog.storedHandles, handle.isUnreadable = false

instance (catalog : Catalog) : Decidable catalog.IsReadable :=
  inferInstanceAs (Decidable (∀ handle ∈ catalog.storedHandles, handle.isUnreadable = false))

/-- The move registers nothing that cannot be read back. -/
def Move.registersReadable : Move → Bool
  | .change _ (.register account) => !account.handle.isUnreadable
  | _ => true

/-! ## Where handles come from -/

namespace Registry

variable {registry : Registry} {device : Device} {caller : Scope} {effect : Effect}

/-- Every handle in a catalog after a change was there before, or stands for an explicit choice
of none, or is that of the account that was registered. -/
theorem mem_storedHandles_effectOf
    {change : Change}
    (accepted : registry.effectOf device caller change = .ok effect)
    {handle : Handle}
    (stored : handle ∈ effect.catalog.storedHandles) :
    handle ∈ registry.catalog.storedHandles ∨
      handle = Handle.noneSelected ∨
      ∃ account, change = .register account ∧ account.handle = handle := by
  have known
      {account : Account}
      (member : account ∈ registry.catalog.accounts) :
      account.handle ∈ registry.catalog.storedHandles :=
    Catalog.mem_storedHandles.mpr (.inr (.inr ⟨account, member, rfl⟩))
  obtain ⟨choices, managers⟩ := chosen_effectOf accepted
  rcases Catalog.mem_storedHandles.mp stored with chosen | manages | ⟨account, member, rfl⟩
  · rcases choices handle chosen with before | ⟨account, member, rfl⟩
    · exact .inl (Catalog.mem_storedHandles.mpr (.inl before))
    · exact .inl (known member)
  · rcases managers handle manages with before | none | ⟨account, member, rfl⟩
    · exact .inl (Catalog.mem_storedHandles.mpr (.inr (.inl before)))
    · exact .inr (.inl none)
    · exact .inl (known member)
  · rcases mem_effectOf accepted member with
      before | ⟨registered, isRegistered, rfl⟩ | ⟨switched, before, enabled, -, rfl⟩
    · exact .inl (known before)
    · exact .inr (.inr ⟨registered, isRegistered, rfl⟩)
    · have listed : switched.handle ∈ registry.catalog.storedHandles := known before
      exact .inl listed

/-- A change leaves a readable catalog readable if what it registers is. -/
theorem isReadable_effectOf
    {change : Change}
    (readable : registry.catalog.IsReadable)
    (registered : (Move.change caller change).registersReadable = true)
    (accepted : registry.effectOf device caller change = .ok effect) :
    effect.catalog.IsReadable := by
  intro handle stored
  rcases mem_storedHandles_effectOf accepted stored with before | rfl | ⟨account, rfl, rfl⟩
  · exact readable handle before
  · exact Handle.noneSelected_isReadable
  · simpa [Move.registersReadable] using registered

end Registry

/-- Whatever file a registry starts on, it starts with a catalog that can be read back. -/
theorem Startup.isReadable_ofLoaded
    {reader : StateFile.Reader}
    {path : FilePath}
    {files : Entry}
    {loaded : StateFile.LoadResult}
    (loads : StateFile.load reader path files = .ok loaded)
    (directory : ScopeDirectory) :
    (ofLoaded directory loaded).1.IsReadable := by
  intro handle stored
  cases loaded with
  | loaded catalog =>
      have read := StateFile.isRead_of_loadWith loads
      apply read.isReadable
      rcases Catalog.mem_storedHandles.mp stored with chosen | manages | ⟨account, member, rfl⟩
      · exact Catalog.mem_storedHandles.mpr (.inl chosen)
      · exact Catalog.mem_storedHandles.mpr (.inr (.inl manages))
      · have before := (List.mem_filter.mp (Accounts.mem_of_mem_withoutDuplicates member)).1
        exact Catalog.mem_storedHandles.mpr (.inr (.inr ⟨account, before, rfl⟩))
  | absent => exact absurd stored List.not_mem_nil
  | corrupt => exact absurd stored List.not_mem_nil

namespace Session

/-! ## Moves -/

/-- The file stores a catalog that can be read back. -/
def HoldsReadable (session : Session) : Prop :=
  ∃ written stored, session.Holds written stored ∧ stored.IsReadable

/-- The catalog in use can be read back, and so can the one in the file, if there is a file. -/
structure StaysReadable (session : Session) : Prop where
  inPlace : session.IsInPlace
  catalog : session.registry.catalog.IsReadable
  file : session.fileContent = .error .absent ∨ session.HoldsReadable

theorem isReadable_after
    {session : Session}
    (readable : session.registry.catalog.IsReadable)
    {move : Move}
    (registered : move.registersReadable = true) :
    (session.after move).registry.catalog.IsReadable := by
  rcases catalog_after_cases session move with
    same | ⟨caller, change, effect, rfl, accepted, made⟩ | ⟨processScope, loaded, -, loads, begun⟩
  · rw [same]
    exact readable
  · rw [made]
    exact Registry.isReadable_effectOf readable registered accepted
  · rw [begun]
    have found := (foundForStart?_eq_some_iff.mp loads).1
    exact Startup.isReadable_ofLoaded found session.device.directory

/-- A move that saves well keeps a readable file readable. -/
theorem HoldsReadable.after
    {session : Session}
    (stays : session.StaysReadable)
    {move : Move}
    (saves : session.SavesWell move)
    (registered : move.registersReadable = true)
    (holds : session.HoldsReadable) :
    (session.after move).HoldsReadable := by
  rcases fileContent_after stays.inPlace saves.leaves saves.readsBack with same | ⟨-, new⟩
  · obtain ⟨written, stored, old, readable⟩ := holds
    exact ⟨written, stored, ⟨same.trans old.content, old.readsBack⟩, readable⟩
  · exact ⟨_, _, new, isReadable_after stays.catalog registered⟩

theorem StaysReadable.after
    {session : Session}
    (stays : session.StaysReadable)
    {move : Move}
    (saves : session.SavesWell move)
    (registered : move.registersReadable = true) :
    (session.after move).StaysReadable := by
  have readable := isReadable_after stays.catalog registered
  refine ⟨stays.inPlace.after move, readable, ?_⟩
  rcases stays.file with absent | holds
  · rcases fileContent_after stays.inPlace saves.leaves saves.readsBack with same | ⟨-, new⟩
    · exact .inl (same.trans absent)
    · exact .inr ⟨_, _, new, readable⟩
  · exact .inr (holds.after stays saves registered)

/-! ## Runs -/

theorem staysReadable_start
    {device : Device}
    {processScope : Scope}
    {session : Session}
    (started : start device processScope = .ok session)
    (absent : device.files.read device.settings.stateFile.parts = .error .absent) :
    session.StaysReadable := by
  have found :
      StateFile.load (Registry.startReader device processScope) device.settings.stateFile
        device.files = .ok .absent := by
    rw [StateFile.load, StateFile.loadWith, absent]
  have free : ¬ Startup.IsBlocked device.directory .absent :=
    Startup.not_isBlocked_of_unsaved rfl
  have inPlace := isInPlace_start started
  obtain ⟨registry, device', begins, rfl⟩ := start_eq_ok started
  have begun := begins.symm.trans (Registry.startWith_eq_ok found free)
  obtain ⟨rfl, rfl⟩ := Prod.mk.inj (Except.ok.inj begun)
  exact ⟨inPlace, fun handle stored => absurd stored List.not_mem_nil, .inl absent⟩

/-- Once a change has been accepted, the file can be loaded for the rest of the run. -/
theorem holdsReadable_makes
    {session : Session}
    (stays : session.StaysReadable)
    {before : List Move}
    {move : Move}
    {later : List Move}
    (along : Along SavesWell session (before ++ move :: later))
    (registered : ∀ other ∈ before ++ move :: later, other.registersReadable = true)
    (accepts : (session.makes before).Accepts move) :
    (session.makes (before ++ move :: later)).HoldsReadable := by
  have both := along.and_forall registered
  have reached : (session.makes before).StaysReadable :=
    both.append_left.keeps StaysReadable (fun _ _ held met => held.after met.1 met.2) stays
  obtain ⟨⟨saves, registers⟩, rest⟩ := both.append_right
  have next := reached.after saves registers
  have stored : ((session.makes before).after move).HoldsReadable :=
    ⟨_, _, holds_of_accepts reached.inPlace saves accepts, next.catalog⟩
  rw [makes_append, makes_cons]
  have kept := rest.keeps (fun session => session.StaysReadable ∧ session.HoldsReadable)
    (fun _ _ held met => ⟨held.1.after met.1 met.2, held.2.after held.1 met.1 met.2⟩)
    ⟨next, stored⟩
  exact kept.2

theorem HoldsReadable.load
    {session : Session}
    (holds : session.HoldsReadable)
    (reader : StateFile.Reader) :
    ∃ catalog, session.load reader = .ok (.loaded catalog) := by
  obtain ⟨written, stored, holds, readable⟩ := holds
  rw [holds.load reader, StateFile.storedResult_of_readable readable]
  exact ⟨_, rfl⟩

/-- On a device without a state file, take any run in which every save succeeds and its text can
be read, and a change in it that is accepted, and let anybody read the file.

Right after the change the file is corrupt if and only if the catalog names a component that
cannot be read; otherwise it gives the catalog as it is read back.  If nothing that cannot be
read has been registered, the file can be loaded then and at every later moment. -/
theorem load_after_change
    {device : Device}
    {processScope : Scope}
    {first : Session}
    (started : start device processScope = .ok first)
    (absent : device.files.read device.settings.stateFile.parts = .error .absent)
    {before : List Move}
    {move : Move}
    {later : List Move}
    (saves : Along SavesWell first (before ++ move :: later))
    (accepts : (first.makes before).Accepts move)
    (reader : StateFile.Reader) :
    let written := (first.makes before).device.directory
    let changed := (first.makes before).after move
    let catalog := changed.registry.catalog
    (changed.load reader = .ok .corrupt ↔
        ∃ handle ∈ catalog.storedHandles, handle.isUnreadable = true) ∧
      (catalog.IsReadable →
        changed.load reader =
          .ok (.loaded (catalog.rereadFrom written reader.directory reader.processScope))) ∧
      ((∀ other ∈ before ++ move :: later, other.registersReadable = true) →
        ∃ found,
          (first.makes (before ++ move :: later)).load reader = .ok (.loaded found)) := by
  intro written changed catalog
  have stays := staysReadable_start started absent
  have inPlace : (first.makes before).IsInPlace :=
    saves.append_left.keeps IsInPlace (fun _ move held _ => held.after move) stays.inPlace
  have holds : changed.Holds written catalog :=
    holds_of_accepts inPlace saves.append_right.1 accepts
  refine ⟨?_, ?_, ?_⟩
  · rw [holds.load reader, Except.ok.injEq]
    exact StateFile.storedResult_eq_corrupt_iff reader written catalog
  · intro readable
    rw [holds.load reader, StateFile.storedResult_of_readable readable]
  · intro registered
    exact (holdsReadable_makes stays saves registered accepts).load reader

/-! ## Samples -/

/-- An account is registered, and its process starts again. -/
theorem load_after_sampleChange :
    let move := Move.change Scope.owner (.register (sampleAccount Scope.owner))
    let later := [Move.restart ⟨10⟩]
    Along SavesWell sampleSession ([] ++ move :: later) ∧
      sampleSession.Accepts move ∧
      (sampleSession.after move).registry.catalog.accounts = [sampleAccount Scope.owner] ∧
      ∃ found,
        (sampleSession.makes ([] ++ move :: later)).load StateFile.sampleReader =
          .ok (.loaded found) := by
  intro move later
  have saves : Along SavesWell sampleSession ([] ++ move :: later) := by decide +kernel
  have accepts : sampleSession.Accepts move :=
    ⟨_, _, .ofAccounts .empty [sampleAccount Scope.owner], rfl,
      eq_ok_of_toOption (by decide +kernel)⟩
  have loads := load_after_change start_sampleDevice rfl saves accepts StateFile.sampleReader
  exact ⟨saves, accepts, by decide +kernel, loads.2.2 (by decide +kernel)⟩

/-- A component without a class. -/
def sampleNameless : Component := ⟨"com.calls", ""⟩

/-- The component is installed, and an account of it is registered. -/
def sampleNamelessMoves : List Move :=
  [.adjust (.install sampleNameless none Service.bindPermission),
    .change Scope.owner (.register { handle := ⟨sampleNameless, "line", some Scope.owner⟩ })]

/-- The registration is accepted and saved as it should be; the file is corrupt, and the next
registry starts with nothing. -/
theorem nameless_isCorrupt :
    let session := sampleSession.makes sampleNamelessMoves
    Along SavesWell sampleSession sampleNamelessMoves ∧
      session.registry.catalog.accounts.length = 1 ∧
      (session.load (Registry.startReader session.device Scope.owner)).toOption =
        some .corrupt ∧
      (session.restarted Scope.owner).registry.catalog = .empty := by
  decide +kernel

end Session

end PhoneAccounts

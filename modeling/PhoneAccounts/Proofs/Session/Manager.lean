import PhoneAccounts.Proofs.Session.Readability

/-!
Contract: under which scope a chosen manager is found again.

The manager is stored with the serial number that its scope has at the moment of the save, and a
restart looks for the scope with that number.  As long as the scope has its number whenever
something is saved, and is found under it whenever the registry starts again, the manager is the
one that was chosen.  A start that finds no scope under the number puts the manager under the
scope of the process, as if no number had been stored.

Owns: the moves that leave the choice of the manager alone, and the manager after a run of them
and after a restart.

Does not own: which manager a caller is told (see `PhoneAccounts.Registry.Query`).
-/

namespace PhoneAccounts

/-- A choice of a manager. -/
abbrev Move.chooseManager (caller : Scope) (handle : Handle) : Move :=
  .change caller (.setCallManager (some handle))

/-- What a handle is read back as whose scope was written as this number. -/
theorem Handle.rereadFrom_of_owned
    {written directory : ScopeDirectory}
    {handle : Handle}
    {owner : Scope}
    (owned : handle.scope = some owner)
    (stable : Component.ofText? handle.component.flatText = some handle.component) :
    handle.rereadFrom written directory =
      handle.withScope (directory.scopeOf? (written.serialOf owner)) := by
  have component : handle.component.reread = handle.component := by
    rw [Component.reread, stable, Option.getD_some]
  rw [Handle.rereadFrom, component, owned]
  rfl

/-- A handle that is found under its own scope is not put under another. -/
theorem Handle.adopted_withScope_self
    {handle : Handle}
    {owner : Scope}
    (owned : handle.scope = some owner)
    (processScope : Scope) :
    (handle.withScope (some owner)).adopted processScope = handle := by
  rw [← owned]
  show handle.adopted processScope = handle
  rw [Handle.adopted, owned]

/-- An accepted change to anything but the manager leaves the manager. -/
theorem Registry.simCallManager_effectOf
    {registry : Registry}
    {device : Device}
    {caller : Scope}
    {effect : Effect}
    {change : Change}
    (accepted : registry.effectOf device caller change = .ok effect)
    (other : ∀ handle, change ≠ .setCallManager handle) :
    effect.catalog.simCallManager = registry.catalog.simCallManager := by
  cases change with
  | setDefaultOutgoing handle => rw [(setDefaultOutgoingEffect_eq_ok accepted).2.1]
  | setCallManager handle => exact absurd rfl (other handle)
  | _ => exact (choices_effectOf rfl accepted).2

/-- The manager that a registry starts with is that of the file. -/
theorem Startup.simCallManager_ofLoaded
    (directory : ScopeDirectory)
    (loaded : StateFile.LoadResult) :
    (ofLoaded directory loaded).1.simCallManager =
      loaded.catalog?.bind Catalog.simCallManager := by
  cases loaded <;> rfl

namespace Session

/-- The move is a choice of a manager, and it is accepted. -/
def choosesManager (session : Session) : Move → Bool
  | .change caller (.setCallManager handle) =>
      (session.registry.effectOf session.device caller (.setCallManager handle)).toBool
  | _ => false

/-- The move chooses no manager; if it saves something, the owner has this serial number and the
text can be read; if it is a restart, the owner is found under the number. -/
structure LeavesManager
    (owner : Scope)
    (serial : Int)
    (session : Session)
    (move : Move) :
    Prop where
  leaves : move.leavesFile = true
  unchosen : session.choosesManager move = false
  known : (session.saved? move).isSome = true → session.device.directory.serialOf owner = serial
  readsBack : ∀ catalog ∈ session.saved? move,
    StateFile.ReadsBack session.device.directory catalog
  found : move.isRestart = true → session.device.directory.scopeOf? serial = some owner

instance (owner : Scope) (serial : Int) (session : Session) (move : Move) :
    Decidable (LeavesManager owner serial session move) :=
  decidable_of_iff
    (move.leavesFile = true ∧
      session.choosesManager move = false ∧
      ((session.saved? move).isSome = true → session.device.directory.serialOf owner = serial) ∧
      (∀ catalog ∈ session.saved? move,
        StateFile.ReadsBack session.device.directory catalog) ∧
      (move.isRestart = true → session.device.directory.scopeOf? serial = some owner))
    ⟨fun ⟨leaves, unchosen, known, readsBack, found⟩ =>
        ⟨leaves, unchosen, known, readsBack, found⟩,
      fun leaves =>
        ⟨leaves.leaves, leaves.unchosen, leaves.known, leaves.readsBack, leaves.found⟩⟩

/-- The manager in use is the chosen one or there is none, and so in the file, where the scope of
the chosen one is stored as this serial number. -/
structure KeepsManager (handle : Handle) (owner : Scope) (serial : Int) (session : Session) :
    Prop where
  inPlace : session.IsInPlace
  manager : ∀ other ∈ session.registry.catalog.simCallManager, other = handle
  file : ∀ bytes, session.fileContent = .ok bytes →
    ∃ written stored,
      session.Holds written stored ∧
        written.serialOf owner = serial ∧
        ∀ other ∈ stored.simCallManager, other = handle

section

variable {session : Session} {handle : Handle} {owner : Scope} {serial : Int}

/-- The file can be loaded.  It gives the chosen manager under the scope that the serial number
leads to, or else under that of the process, or it gives none. -/
theorem KeepsManager.load
    (keeps : KeepsManager handle owner serial session)
    (owned : handle.scope = some owner)
    (stable : Component.ofText? handle.component.flatText = some handle.component)
    (processScope : Scope) :
    ∃ loaded : StateFile.LoadResult,
      session.found processScope = .ok loaded ∧
        ∀ other ∈ loaded.catalog?.bind Catalog.simCallManager,
          other = (handle.withScope (session.device.directory.scopeOf? serial)).adopted
            processScope := by
  cases content : session.fileContent with
  | ok bytes =>
      obtain ⟨written, stored, holds, number, manager⟩ := keeps.file bytes content
      refine ⟨_, holds.load _, ?_⟩
      intro other manages
      unfold StateFile.storedResult at manages
      split at manages
      · exact absurd manages (by simp [StateFile.LoadResult.catalog?])
      · obtain ⟨before, chosen, rfl⟩ := Option.map_eq_some_iff.mp manages
        obtain rfl := manager before chosen
        rw [Handle.rereadFrom_of_owned owned stable, number]
        rfl
  | error fault =>
      -- Without a file that can be read there is nothing to start from.
      unfold fileContent at content
      unfold found Session.load StateFile.load StateFile.loadWith
      rw [content]
      cases fault with
      | absent => exact ⟨_, rfl, by simp [StateFile.LoadResult.catalog?]⟩
      | isDirectory => exact ⟨_, rfl, by simp [StateFile.LoadResult.catalog?]⟩
      | fileOnTheWay => exact ⟨_, rfl, by simp [StateFile.LoadResult.catalog?]⟩

/-- A restart finds the chosen manager under that scope, or it finds none. -/
theorem KeepsManager.restarted
    (keeps : KeepsManager handle owner serial session)
    (owned : handle.scope = some owner)
    (stable : Component.ofText? handle.component.flatText = some handle.component)
    {processScope : Scope}
    (starts : (session.foundForStart? processScope).isSome = true) :
    ∀ other ∈ (session.restarted processScope).registry.catalog.simCallManager,
      other = (handle.withScope (session.device.directory.scopeOf? serial)).adopted
        processScope := by
  obtain ⟨loaded, loads⟩ := Option.isSome_iff_exists.mp starts
  obtain ⟨_, found, manager⟩ := keeps.load owned stable processScope
  obtain rfl := Except.ok.inj (found.symm.trans (foundForStart?_eq_some_iff.mp loads).1)
  rw [catalog_restarted, loads, Startup.simCallManager_ofLoaded]
  exact manager

theorem LeavesManager.simCallManager_carriedOut
    {caller : Scope}
    {change : Change}
    (leaves : LeavesManager owner serial session (.change caller change)) :
    (session.carriedOut caller change).registry.catalog.simCallManager =
      session.registry.catalog.simCallManager := by
  cases decided : session.registry.effectOf session.device caller change with
  | error refusal => rw [carriedOut_of_refused decided]
  | ok effect =>
      rw [carriedOut_of_accepted decided]
      apply Registry.simCallManager_effectOf decided
      rintro chosen rfl
      have unchosen := leaves.unchosen
      rw [choosesManager, decided] at unchosen
      exact absurd unchosen (by simp [Except.toBool])

/-- A move that leaves the manager keeps it. -/
theorem KeepsManager.after
    (keeps : KeepsManager handle owner serial session)
    (owned : handle.scope = some owner)
    (stable : Component.ofText? handle.component.flatText = some handle.component)
    {move : Move}
    (leaves : LeavesManager owner serial session move) :
    KeepsManager handle owner serial (session.after move) := by
  have manager : ∀ other ∈ (session.after move).registry.catalog.simCallManager,
      other = handle := by
    cases move with
    | change caller change =>
        rw [Session.after, leaves.simCallManager_carriedOut]
        exact keeps.manager
    | adjust adjustment =>
        rw [Session.after, catalog_adjust]
        exact keeps.manager
    | writeFile content => exact absurd leaves.leaves Bool.false_ne_true
    | restart processScope =>
        rw [Session.after]
        cases loads : session.foundForStart? processScope with
        | none =>
            rw [restarted_of_stopped loads]
            exact keeps.manager
        | some loaded =>
            intro other manages
            have starts : (session.foundForStart? processScope).isSome = true := by rw [loads]; rfl
            rw [keeps.restarted owned stable starts other manages, leaves.found rfl,
              Handle.adopted_withScope_self owned]
    | log lines => exact keeps.manager
  refine ⟨keeps.inPlace.after move, manager, ?_⟩
  intro bytes content
  rcases fileContent_after keeps.inPlace leaves.leaves leaves.readsBack with same | ⟨saves, new⟩
  · obtain ⟨written, stored, old, rest⟩ := keeps.file bytes (same.symm.trans content)
    exact ⟨written, stored, ⟨same.trans old.content, old.readsBack⟩, rest⟩
  · exact ⟨_, _, new, leaves.known saves, manager⟩

/-! ## While everything can be read -/

/-- There is a manager in use and one in the file, and both catalogs can be read back. -/
structure HasManager (session : Session) : Prop where
  inPlace : session.IsInPlace
  readable : session.registry.catalog.IsReadable
  chosen : session.registry.catalog.simCallManager.isSome = true
  file : ∃ written stored,
    session.Holds written stored ∧
      stored.IsReadable ∧
      stored.simCallManager.isSome = true

/-- A restart on a file that can be read finds the manager that is in it. -/
theorem HasManager.restarted
    (has : session.HasManager)
    (processScope : Scope) :
    (session.restarted processScope).registry.catalog.simCallManager.isSome = true := by
  cases loads : session.foundForStart? processScope with
  | none =>
      rw [restarted_of_stopped loads]
      exact has.chosen
  | some loaded =>
      obtain ⟨written, stored, holds, readable, chosen⟩ := has.file
      have found : session.found processScope = _ := holds.load _
      rw [StateFile.storedResult_of_readable readable] at found
      obtain rfl := Except.ok.inj (found.symm.trans (foundForStart?_eq_some_iff.mp loads).1)
      rw [catalog_restarted, loads]
      show (stored.simCallManager.map _).isSome = true
      rw [Option.isSome_map]
      exact chosen

theorem HasManager.after
    (has : session.HasManager)
    {move : Move}
    (leaves : LeavesManager owner serial session move)
    (registered : move.registersReadable = true) :
    (session.after move).HasManager := by
  have chosen : (session.after move).registry.catalog.simCallManager.isSome = true := by
    cases move with
    | change caller change =>
        rw [Session.after, leaves.simCallManager_carriedOut]
        exact has.chosen
    | adjust adjustment =>
        rw [Session.after, catalog_adjust]
        exact has.chosen
    | writeFile content => exact absurd leaves.leaves Bool.false_ne_true
    | restart processScope => exact has.restarted processScope
    | log lines => exact has.chosen
  have readable := isReadable_after has.readable registered
  refine ⟨has.inPlace.after move, readable, chosen, ?_⟩
  rcases fileContent_after has.inPlace leaves.leaves leaves.readsBack with same | ⟨-, new⟩
  · obtain ⟨written, stored, old, rest⟩ := has.file
    exact ⟨written, stored, ⟨same.trans old.content, old.readsBack⟩, rest⟩
  · exact ⟨_, _, new, readable, chosen⟩

/-! ## The choice -/

theorem simCallManager_chosen
    {caller : Scope}
    (accepts : session.Accepts (.chooseManager caller handle)) :
    (session.after (.chooseManager caller handle)).registry.catalog.simCallManager =
      some handle := by
  obtain ⟨_, _, effect, same, accepted⟩ := accepts
  obtain ⟨rfl, rfl⟩ := Move.change.inj same
  rw [after, carriedOut_of_accepted accepted]
  have accepted : session.registry.setCallManagerEffect (some handle) = .ok effect := accepted
  exact congrArg Catalog.simCallManager (Registry.setCallManagerEffect_eq_ok accepted).2.1

/-- An accepted choice is the manager in use, and in the file. -/
theorem keepsManager_chosen
    (inPlace : session.IsInPlace)
    {caller : Scope}
    (accepts : session.Accepts (.chooseManager caller handle))
    (saves : session.SavesWell (.chooseManager caller handle))
    (known : session.device.directory.serialOf owner = serial) :
    KeepsManager handle owner serial (session.after (.chooseManager caller handle)) := by
  have manager : ∀ other ∈
      (session.after (.chooseManager caller handle)).registry.catalog.simCallManager,
      other = handle := by
    rw [simCallManager_chosen accepts]
    exact fun other same => (Option.some.inj same).symm
  have stored := holds_of_accepts inPlace saves accepts
  exact ⟨inPlace.after _, manager, fun _ _ => ⟨_, _, stored, known, manager⟩⟩

theorem hasManager_chosen
    (inPlace : session.IsInPlace)
    (readable : session.registry.catalog.IsReadable)
    {caller : Scope}
    (accepts : session.Accepts (.chooseManager caller handle))
    (saves : session.SavesWell (.chooseManager caller handle)) :
    (session.after (.chooseManager caller handle)).HasManager := by
  have next := isReadable_after readable
    (rfl : (Move.chooseManager caller handle).registersReadable = true)
  have chosen :
      (session.after (.chooseManager caller handle)).registry.catalog.simCallManager.isSome =
        true := by
    rw [simCallManager_chosen accepts]
    rfl
  have stored := holds_of_accepts inPlace saves accepts
  exact ⟨inPlace.after _, next, chosen, _, _, stored, next, chosen⟩

end

/-! ## Runs -/

/-- Choose a manager whose component is read back as it is, under a scope with a serial number,
and let the choice be saved.  However the session goes on without another choice, as long as the
scope has its number when something is saved and is found under it at every restart, no other
handle becomes the manager.

A restart then finds the manager under the scope that the number leads to: under its own, if that
is known, and under the scope of the process, if no scope has the number.  It finds it for sure
if everything that was registered can be read.  Nothing keeps the registry from starting, unless
what the file gives has to be corrected and cannot be written out. -/
theorem manager_isFoundByNumber
    {session : Session}
    (reached : Reachable session)
    {caller owner : Scope}
    {handle : Handle}
    (owned : handle.scope = some owner)
    (stable : Component.ofText? handle.component.flatText = some handle.component)
    {serial : Int}
    (known : session.device.directory.serialOf owner = serial)
    (accepts : session.Accepts (.chooseManager caller handle))
    (saves : session.SavesWell (.chooseManager caller handle))
    {moves : List Move}
    (leaves : Along (LeavesManager owner serial)
      (session.after (.chooseManager caller handle)) moves)
    (processScope : Scope) :
    let later := (session.after (.chooseManager caller handle)).makes moves
    let found := later.device.directory.scopeOf? serial
    (∀ other ∈ later.registry.catalog.simCallManager, other = handle) ∧
      (∀ fresh, start later.device processScope = .ok fresh →
        let again := fresh.registry.catalog.simCallManager
        (∀ other ∈ again, other = (handle.withScope found).adopted processScope) ∧
          (found = some owner → ∀ other ∈ again, other = handle) ∧
          (found = none → handle.isNoneSelected = false →
            ∀ other ∈ again, other = handle.withScope (some processScope)) ∧
          (session.registry.catalog.IsReadable →
            (∀ move ∈ moves, move.registersReadable = true) →
            again = some ((handle.withScope found).adopted processScope))) ∧
      ∀ stop, start later.device processScope = .error stop →
        stop = .longInteger ∧
          ∃ loaded, later.found processScope = .ok loaded ∧
            Startup.IsBlocked later.device.directory loaded := by
  intro later found
  have keeps : KeepsManager handle owner serial later :=
    leaves.keeps _ (fun _ _ held met => held.after owned stable met)
      (keepsManager_chosen reached.isInPlace accepts saves known)
  refine ⟨keeps.manager, ?_, ?_⟩
  · intro fresh starts again
    obtain ⟨canStart, same⟩ := restarted_of_start starts
    have restarted : (later.restarted processScope).registry.catalog.simCallManager = again :=
      congrArg (fun session => session.registry.catalog.simCallManager) same
    have finds : ∀ other ∈ again, other = (handle.withScope found).adopted processScope := by
      rw [← restarted]
      exact keeps.restarted owned stable canStart
    refine ⟨finds, ?_, ?_, ?_⟩
    · intro isKnown other manages
      rw [finds other manages, isKnown, Handle.adopted_withScope_self owned]
    · intro isUnknown isChoice other manages
      rw [finds other manages, isUnknown]
      exact if_neg (by simpa [Handle.isNoneSelected, Handle.withScope] using isChoice)
    · intro readable registered
      have has : later.HasManager :=
        (leaves.and_forall registered).keeps HasManager
          (fun _ _ held met => held.after met.1 met.2)
          (hasManager_chosen reached.isInPlace readable accepts saves)
      have chosen := has.restarted processScope
      rw [restarted] at chosen
      obtain ⟨other, manages⟩ := Option.isSome_iff_exists.mp chosen
      rw [← finds other manages]
      exact manages
  · intro stop stops
    obtain ⟨loaded, loads, -⟩ := keeps.load owned stable processScope
    rcases Registry.startWith_eq_error_iff.mp (start_eq_error stops) with
      unloaded | ⟨blocking, blocked, isBlocked, isLong⟩
    · cases loads.symm.trans unloaded
    · exact ⟨isLong, blocking, blocked, isBlocked⟩

/-! ## Samples -/

/-- An account of a profile that can manage connections. -/
def sampleManager : Account :=
  { sampleAccount ⟨10⟩ with capabilities := Capability.connectionManager.mask }

/-- The session in which the account has been registered. -/
def sampleManagerSession : Session :=
  sampleSession.makes [.change Scope.owner (.register sampleManager)]

abbrev sampleChoice : Move :=
  .chooseManager Scope.owner sampleManager.handle

/-- A scope comes, the registry starts again, and another choice is made. -/
def sampleLaterMoves : List Move :=
  [.adjust (.addScope ⟨11⟩ none none), .restart Scope.owner,
    .change Scope.owner (.setDefaultOutgoing none)]

/-- The next registry has the chosen manager again, whatever scope its process runs in. -/
theorem sampleManager_isFoundByNumber :
    sampleManagerSession.Accepts sampleChoice ∧
      sampleManagerSession.SavesWell sampleChoice ∧
      Along (LeavesManager ⟨10⟩ 17) (sampleManagerSession.after sampleChoice)
        sampleLaterMoves ∧
      ∃ fresh,
        start ((sampleManagerSession.after sampleChoice).makes sampleLaterMoves).device ⟨11⟩ =
            .ok fresh ∧
          fresh.registry.catalog.simCallManager = some sampleManager.handle := by
  have reached : Reachable sampleManagerSession :=
    (Reachable.start start_sampleDevice).leads ⟨_, rfl⟩
  have accepts : sampleManagerSession.Accepts sampleChoice :=
    ⟨_, _, ⟨{ simCallManager := sampleManager.handle, accounts := [sampleManager] }, none,
        .simCallManager⟩, rfl, eq_ok_of_toOption (by decide +kernel)⟩
  have saves : sampleManagerSession.SavesWell sampleChoice := by decide +kernel
  have known : sampleManagerSession.device.directory.serialOf ⟨10⟩ = 17 := by decide +kernel
  have leaves : Along (LeavesManager ⟨10⟩ 17) (sampleManagerSession.after sampleChoice)
      sampleLaterMoves := by decide +kernel
  have readable : sampleManagerSession.registry.catalog.IsReadable := by decide +kernel
  have registered : ∀ move ∈ sampleLaterMoves, move.registersReadable = true := by decide
  have canStart : (start ((sampleManagerSession.after sampleChoice).makes
      sampleLaterMoves).device ⟨11⟩).toOption.isSome = true := by
    decide +kernel
  obtain ⟨fresh, starts⟩ := Option.isSome_iff_exists.mp canStart
  obtain starts := eq_ok_of_toOption starts
  obtain ⟨-, finds, -⟩ :=
    manager_isFoundByNumber reached rfl (by decide +kernel) known accepts saves leaves ⟨11⟩
  obtain ⟨-, -, -, again⟩ := finds fresh starts
  refine ⟨accepts, saves, leaves, fresh, starts, ?_⟩
  rw [again readable registered]
  decide +kernel

/-- The profile is removed after its account has been chosen, and nobody else has its serial
number; the next registry has an account of the owner for its manager. -/
theorem removedScope_losesManager :
    let moves :=
      [Move.change Scope.owner (.register sampleManager),
        .chooseManager Scope.owner sampleManager.handle,
        .adjust (.removeScope ⟨10⟩)]
    let session := sampleSession.makes moves
    Along SavesWell sampleSession moves ∧
      session.registry.catalog.simCallManager = some sampleManager.handle ∧
      session.device.directory.serials = [(Scope.owner, 0)] ∧
      (session.restarted Scope.owner).registry.catalog.simCallManager =
        some (sampleManager.handle.withScope (some Scope.owner)) := by
  decide +kernel

end Session

end PhoneAccounts

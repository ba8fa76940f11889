import PhoneAccounts.Proofs.Registry.Choices
import PhoneAccounts.Proofs.Session.Stored

/-!
Contract: whether the account that is named as the manager can manage connections.

That a manager has the capability is checked when it is chosen.  A read asks no more than that the
account of the choice is there, that the caller sees it, and that it resolves; and of the account
that stands in for a choice it asks for the component alone.  So whoever is named can manage
connections as long as every account has the capability that may be named, and four kinds of moves
end that.

Owns: `HasCapableManagers`, the moves that spoil it, and who is named with and without them.

Does not own: which choices count (see `PhoneAccounts.Proofs.Registry.Choices`), and what becomes
of the choice in the file (see `PhoneAccounts.Proofs.Session.Manager`).
-/

namespace PhoneAccounts

namespace Catalog

/-- An account with this handle may be named as the manager: it is the chosen one, or it is of the
component that stands in for it. -/
def mayName (catalog : Catalog) (usual : String) (handle : Handle) : Bool :=
  catalog.simCallManager = some handle || Component.ofText? usual = some handle.component

/-- Every account that may be named as the manager can manage connections. -/
def HasCapableManagers (usual : String) (catalog : Catalog) : Prop :=
  ∀ account ∈ catalog.accounts,
    catalog.mayName usual account.handle = true → account.has .connectionManager = true

instance (usual : String) (catalog : Catalog) : Decidable (catalog.HasCapableManagers usual) :=
  inferInstanceAs
    (Decidable (∀ account ∈ catalog.accounts,
      catalog.mayName usual account.handle = true → account.has .connectionManager = true))

theorem mayName_iff {catalog : Catalog} {usual : String} {handle : Handle} :
    catalog.mayName usual handle = true ↔
      catalog.simCallManager = some handle ∨
        Component.ofText? usual = some handle.component := by
  rw [mayName, Bool.or_eq_true, decide_eq_true_eq, decide_eq_true_eq]

/-- Who may be named depends on the choice alone, and not on the accounts. -/
theorem mayName_congr
    {left right : Catalog}
    (same : left.simCallManager = right.simCallManager)
    (usual : String) :
    left.mayName usual = right.mayName usual := by
  funext handle
  rw [mayName, mayName, same]

end Catalog

/-- The change, if it is accepted, lets an account be named that cannot manage connections: it
registers one, or it chooses none where the handle for this choice is that of such an account. -/
def Change.spoilsManager (catalog : Catalog) (usual : String) : Change → Bool
  | .register account =>
      catalog.mayName usual account.handle && !account.has .connectionManager
  | .setCallManager none =>
      catalog.accounts.any fun account =>
        account.handle = Handle.noneSelected && !account.has .connectionManager
  | _ => false

namespace Registry

variable {registry : Registry} {device : Device} {caller : Scope} {effect : Effect}
variable {usual : String}

/-! ## Answers -/

/-- Whoever is named as the manager is seen by the caller and resolves; it is the chosen one, or,
where no chosen one counts, an account that is on and stands in for it. -/
theorem callManager?_cases
    (unique : Accounts.Unique registry.catalog.accounts)
    {manager : Handle}
    (named : registry.callManager? device caller = some manager) :
    ∃ account,
      registry.visibleAccount? device caller (some manager) = some account ∧
        device.installs.resolve manager.component manager.scope ≠ [] ∧
        (registry.CountsAsManager device caller manager ∨
          (∀ other, ¬ registry.CountsAsManager device caller other) ∧
            registry.StandsInAsManager device caller manager ∧
            account.enabled = true) := by
  rcases callManager?_eq_some_iff.mp named with counts | ⟨noneCounts, standsIn⟩
  · obtain ⟨account, visible⟩ := Option.isSome_iff_exists.mp counts.visible
    exact ⟨account, visible, (Device.resolves_iff device manager).mp counts.resolves, .inl counts⟩
  · have listed := List.mem_of_find?_eq_some standsIn.first
    obtain ⟨account, visible, asks, resolves⟩ := (mem_queryHandles_iff unique).mp listed
    exact ⟨account, visible, (Device.resolves_iff device manager).mp resolves,
      .inr ⟨noneCounts, standsIn, asks.enabled.resolve_right Bool.false_ne_true⟩⟩

/-! ## Changes -/

theorem hasCapableManagers_register_iff
    (capable : registry.catalog.HasCapableManagers usual)
    {account : Account}
    (accepted : registry.registerEffect device account = .ok effect) :
    effect.catalog.HasCapableManagers usual ↔
      (Change.register account).spoilsManager registry.catalog usual = false := by
  rw [(registerEffect_eq_ok accepted).2, Change.spoilsManager, Bool.and_eq_false_imp,
    Bool.not_eq_false']
  constructor
  · intro later mayBeNamed
    have stored : Accounts.find? account.handle
        (Accounts.put (storedAs registry.catalog account) registry.catalog.accounts) =
          some (storedAs registry.catalog account) := by
      rw [Accounts.find?_put]
      exact if_pos rfl
    have listed := (Accounts.mem_and_handle_of_find?_eq_some stored).1
    exact later (storedAs registry.catalog account) listed mayBeNamed
  · intro kept other member mayBeNamed
    rcases Accounts.eq_or_mem_of_mem_put member with rfl | before
    · exact kept mayBeNamed
    · exact capable other before mayBeNamed

/-- What is chosen has the capability; the handle that stands for no choice need not. -/
theorem hasCapableManagers_setCallManager_iff
    (unique : Accounts.Unique registry.catalog.accounts)
    (capable : registry.catalog.HasCapableManagers usual)
    {handle : Option Handle}
    (accepted : registry.setCallManagerEffect handle = .ok effect) :
    effect.catalog.HasCapableManagers usual ↔
      (Change.setCallManager handle).spoilsManager registry.catalog usual = false := by
  obtain ⟨known, catalog, -⟩ := setCallManagerEffect_eq_ok accepted
  -- Apart from the new choice, whoever may be named was so before.
  have onlyChosen : effect.catalog.HasCapableManagers usual ↔
      ∀ account ∈ registry.catalog.accounts,
        account.handle = handle.getD Handle.noneSelected →
          account.has .connectionManager = true := by
    rw [catalog]
    unfold Catalog.HasCapableManagers
    simp only [Catalog.mayName_iff, Option.some.injEq]
    refine forall₂_congr fun account member => ⟨fun both chosen => both (.inl chosen.symm), ?_⟩
    rintro chosen (isChosen | standsIn)
    · exact chosen isChosen.symm
    · exact capable account member (Catalog.mayName_iff.mpr (.inr standsIn))
  rw [onlyChosen]
  cases handle with
  | none =>
      rw [Change.spoilsManager, List.any_eq_false]
      simp only [Option.getD_none, Bool.and_eq_true, decide_eq_true_eq, Bool.not_eq_true',
        not_and, Bool.not_eq_false]
  | some handle =>
      refine iff_of_true (fun account member chosen => ?_) rfl
      obtain ⟨found, finds, can⟩ := known handle rfl
      have same : Accounts.find? handle registry.catalog.accounts = some account := by
        rw [← show account.handle = handle from chosen]
        exact Accounts.find?_handle_of_mem unique member
      obtain rfl := Option.some.inj (same.symm.trans finds)
      exact can

/-- An accepted change leaves only capable accounts to be named just if it does not spoil that. -/
theorem hasCapableManagers_effectOf_iff
    (unique : Accounts.Unique registry.catalog.accounts)
    (capable : registry.catalog.HasCapableManagers usual)
    {change : Change}
    (accepted : registry.effectOf device caller change = .ok effect) :
    effect.catalog.HasCapableManagers usual ↔
      change.spoilsManager registry.catalog usual = false := by
  -- Of the changes to accounts, a registration alone decides what an account can do.
  have others
      (onAccounts : change.isOnAccounts = true)
      (noRegistration : ∀ account, change ≠ .register account) :
      effect.catalog.HasCapableManagers usual := by
    intro account member mayBeNamed
    rw [Catalog.mayName_congr (choices_effectOf onAccounts accepted).2] at mayBeNamed
    rcases mem_effectOf accepted member with
      before | ⟨registered, registers, -⟩ | ⟨switched, before, enabled, -, rfl⟩
    · exact capable account before mayBeNamed
    · exact absurd registers (noRegistration registered)
    · exact capable switched before mayBeNamed
  cases change with
  | register account => exact hasCapableManagers_register_iff capable accepted
  | unregister handle => exact iff_of_true (others rfl (by simp)) rfl
  | clear package scope => exact iff_of_true (others rfl (by simp)) rfl
  | setEnabled handle enabled => exact iff_of_true (others rfl (by simp)) rfl
  | setDefaultOutgoing handle =>
      rw [(setDefaultOutgoingEffect_eq_ok accepted).2.1]
      exact iff_of_true capable rfl
  | setCallManager handle => exact hasCapableManagers_setCallManager_iff unique capable accepted

end Registry

namespace Session

variable {session : Session}

/-- Every account that may be named as the manager can manage connections. -/
abbrev HasCapableManagers (session : Session) : Prop :=
  session.registry.catalog.HasCapableManagers session.device.settings.defaultManager

/-- The move lets an account be named that cannot manage connections: it is a change that does so,
the device is set to the component of such an account, or it is a start that finds one. -/
def spoilsManager (session : Session) : Move → Bool
  | .change caller change =>
      (session.registry.effectOf session.device caller change).toBool &&
        change.spoilsManager session.registry.catalog session.device.settings.defaultManager
  | .adjust (.setDefaultManager usual) =>
      session.registry.catalog.accounts.any fun account =>
        Component.ofText? usual = some account.handle.component &&
          !account.has .connectionManager
  | .restart processScope =>
      match session.foundForStart? processScope with
      | some loaded =>
          !decide ((Startup.ofLoaded session.device.directory loaded).1.HasCapableManagers
            session.device.settings.defaultManager)
      | none => false
  | _ => false

/-- Whoever is named as the manager is an account that the caller sees, that resolves, and that can
manage connections. -/
def NamesManagers (session : Session) : Prop :=
  ∀ caller manager,
    session.registry.callManager? session.device caller = some manager →
      ∃ account,
        session.registry.visibleAccount? session.device caller (some manager) = some account ∧
          session.device.installs.resolve manager.component manager.scope ≠ [] ∧
          account.has .connectionManager = true

/-! ## Moves -/

theorem hasCapableManagers_carriedOut_iff
    (inUse : session.registry.catalog.InUse)
    (capable : session.HasCapableManagers)
    (caller : Scope)
    (change : Change) :
    (session.after (.change caller change)).HasCapableManagers ↔
      session.spoilsManager (.change caller change) = false := by
  rw [HasCapableManagers, session.settings_after (by simp), after, spoilsManager]
  cases decided : session.registry.effectOf session.device caller change with
  | error refusal =>
      rw [carriedOut_of_refused decided]
      exact iff_of_true capable rfl
  | ok effect =>
      rw [carriedOut_of_accepted decided]
      exact Registry.hasCapableManagers_effectOf_iff inUse.unique capable decided

theorem hasCapableManagers_adjust_iff
    (capable : session.HasCapableManagers)
    (adjustment : Adjustment) :
    (session.adjust adjustment).HasCapableManagers ↔
      session.spoilsManager (.adjust adjustment) = false := by
  rw [HasCapableManagers, catalog_adjust]
  cases adjustment with
  | setDefaultManager usual =>
      show session.registry.catalog.HasCapableManagers usual ↔ _
      rw [spoilsManager, List.any_eq_false]
      simp only [Bool.and_eq_true, decide_eq_true_eq, Bool.not_eq_true', not_and,
        Bool.not_eq_false]
      unfold Catalog.HasCapableManagers
      simp only [Catalog.mayName_iff]
      refine forall₂_congr fun account member => ⟨fun both standsIn => both (.inr standsIn), ?_⟩
      rintro standsIn (chosen | isSet)
      · exact capable account member (Catalog.mayName_iff.mpr (.inl chosen))
      · exact standsIn isSet
  | _ => exact iff_of_true capable rfl

theorem hasCapableManagers_restarted_iff
    (capable : session.HasCapableManagers)
    (processScope : Scope) :
    (session.after (.restart processScope)).HasCapableManagers ↔
      session.spoilsManager (.restart processScope) = false := by
  rw [HasCapableManagers, session.settings_after (by simp), after, catalog_restarted,
    spoilsManager]
  cases session.foundForStart? processScope with
  | none => exact iff_of_true capable rfl
  | some loaded => rw [Bool.not_eq_false', decide_eq_true_eq]

/-- A move leaves only capable accounts to be named just if it does not spoil that. -/
theorem hasCapableManagers_after_iff
    (inUse : session.registry.catalog.InUse)
    (capable : session.HasCapableManagers)
    (move : Move) :
    (session.after move).HasCapableManagers ↔ session.spoilsManager move = false := by
  cases move with
  | change caller change => exact hasCapableManagers_carriedOut_iff inUse capable caller change
  | adjust adjustment => exact hasCapableManagers_adjust_iff capable adjustment
  | writeFile content =>
      rw [HasCapableManagers, session.settings_after (by simp), after, registry_writeFile]
      exact iff_of_true capable rfl
  | restart processScope => exact hasCapableManagers_restarted_iff capable processScope
  | log lines => exact iff_of_true capable rfl

/-- Only capable accounts may be named, however the session goes on without a move that spoils
that. -/
theorem hasCapableManagers_makes
    (inUse : session.registry.catalog.InUse)
    (capable : session.HasCapableManagers)
    {moves : List Move}
    (kept : Along (fun session move => session.spoilsManager move = false) session moves) :
    (session.makes moves).HasCapableManagers :=
  kept.keeps_of_inUse HasCapableManagers
    (fun _ move inUse capable met => (hasCapableManagers_after_iff inUse capable move).mpr met)
    inUse capable

/-! ## Answers -/

theorem HasCapableManagers.namesManagers
    (capable : session.HasCapableManagers)
    (unique : Accounts.Unique session.registry.catalog.accounts) :
    session.NamesManagers := by
  intro caller manager named
  obtain ⟨account, visible, resolves, either⟩ := Registry.callManager?_cases unique named
  refine ⟨account, visible, resolves, ?_⟩
  obtain ⟨member, rfl⟩ := Registry.mem_and_handle_of_visibleAccount? visible
  refine capable account member (Catalog.mayName_iff.mpr ?_)
  rcases either with counts | ⟨-, standsIn, -⟩
  · exact .inl counts.chosen
  · exact .inr standsIn.component

/-- One manager is enough that cannot manage connections. -/
theorem not_namesManagers_of_named
    {caller : Scope}
    {manager : Handle}
    (named : session.registry.callManager? session.device caller = some manager)
    {account : Account}
    (visible :
      session.registry.visibleAccount? session.device caller (some manager) = some account)
    (incapable : account.has .connectionManager = false) :
    ¬ session.NamesManagers := by
  intro names
  obtain ⟨other, seen, -, capable⟩ := names caller manager named
  obtain rfl := Option.some.inj (visible.symm.trans seen)
  exact absurd capable (by simp [incapable])

/-- In every session that can come about, whoever is named as the manager is an account that the
caller sees and that resolves.  It is the one that was chosen; or, where no chosen one counts, it is
on, it is the first listed of the component that the device is set to, and that is installed.

Once every account that may be named can manage connections, a move keeps it so just if it does not
spoil it; and as long as none does, whoever is named can manage connections. -/
theorem namesManagers_unless_spoiled (reached : Reachable session) :
    (∀ caller manager,
        session.registry.callManager? session.device caller = some manager →
          ∃ account,
            session.registry.visibleAccount? session.device caller (some manager) =
                some account ∧
              session.device.installs.resolve manager.component manager.scope ≠ [] ∧
              (session.registry.CountsAsManager session.device caller manager ∨
                (∀ other, ¬ session.registry.CountsAsManager session.device caller other) ∧
                  session.registry.StandsInAsManager session.device caller manager ∧
                  account.enabled = true)) ∧
      (session.HasCapableManagers →
        (∀ move,
            (session.after move).HasCapableManagers ↔ session.spoilsManager move = false) ∧
          ∀ moves,
            Along (fun session move => session.spoilsManager move = false) session moves →
              (session.makes moves).NamesManagers) := by
  refine ⟨fun caller manager => Registry.callManager?_cases reached.inUse.unique, ?_⟩
  intro capable
  refine ⟨hasCapableManagers_after_iff reached.inUse capable, ?_⟩
  intro moves kept
  have later : Reachable (session.makes moves) := reached.leads ⟨moves, rfl⟩
  exact (hasCapableManagers_makes reached.inUse capable kept).namesManagers later.inUse.unique

/-! ## Samples -/

/-- An account that can manage connections, and nothing else. -/
def sampleConnector (scope : Scope) : Account where
  handle := ⟨⟨"com.calls", "Service"⟩, "connector", some scope⟩
  capabilities := Capability.connectionManager.mask

/-- The session in which the account of the owner is registered and chosen as the manager. -/
def sampleConnectedSession : Session :=
  sampleSession.makes
    [.change Scope.owner (.register (sampleConnector Scope.owner)),
      .change Scope.owner (.setCallManager (sampleConnector Scope.owner).handle)]

/-- An account that cannot manage connections is registered, the manager is registered again with
one more capability and switched on, the choice is taken back, and the device is set to a component
that has no account. -/
def sampleCapableMoves : List Move :=
  [.change Scope.owner (.register (sampleAccount Scope.owner)),
    .change Scope.owner (.register { sampleConnector Scope.owner with capabilities := 3 }),
    .change Scope.owner (.setEnabled (sampleConnector Scope.owner).handle true),
    .adjust (.setDefaultManager "com.other/.Service")]

/-- The account that was chosen is the manager, and whoever is named can manage connections. -/
theorem sampleCapableMoves_nameManagers :
    let later := sampleConnectedSession.makes sampleCapableMoves
    sampleConnectedSession.HasCapableManagers ∧
      later.registry.callManager? later.device Scope.owner =
        some (sampleConnector Scope.owner).handle ∧
      later.NamesManagers := by
  intro later
  have reached : Reachable sampleConnectedSession :=
    (Reachable.start start_sampleDevice).leads ⟨_, rfl⟩
  have capable : sampleConnectedSession.HasCapableManagers := by decide +kernel
  have kept : Along (fun session move => session.spoilsManager move = false)
      sampleConnectedSession sampleCapableMoves := by
    decide +kernel
  obtain ⟨-, goesOn⟩ := namesManagers_unless_spoiled reached
  exact ⟨capable, by decide +kernel, (goesOn capable).2 sampleCapableMoves kept⟩

/-- The chosen manager stays the answer when it is registered again without the capability; and
without a choice, an account that can only place calls stands in, since it is of the component that
the device is set to. -/
theorem otherAccount_isNamed :
    let again : Account := { sampleConnector Scope.owner with capabilities := 0 }
    let registered := sampleConnectedSession.after (.change Scope.owner (.register again))
    let other := sampleAccount Scope.owner
    let set := sampleSession.makes
      [.change Scope.owner (.register other),
        .change Scope.owner (.setEnabled other.handle true),
        .adjust (.setDefaultManager "com.calls/Service")]
    (Reachable registered ∧
        registered.registry.callManager? registered.device Scope.owner = some again.handle ∧
        (registered.registry.account? (some again.handle)).any (·.has .connectionManager) =
          false ∧
        ¬ registered.NamesManagers) ∧
      Reachable set ∧
        set.registry.callManager? set.device Scope.owner = some other.handle ∧
        (set.registry.account? (some other.handle)).any (·.has .connectionManager) = false ∧
        ¬ set.NamesManagers := by
  intro again registered other set
  have reached : Reachable sampleConnectedSession :=
    (Reachable.start start_sampleDevice).leads ⟨_, rfl⟩
  have first : registered.registry.callManager? registered.device Scope.owner =
      some again.handle := by decide +kernel
  have second : set.registry.callManager? set.device Scope.owner = some other.handle := by
    decide +kernel
  have shown : registered.registry.visibleAccount? registered.device Scope.owner
      (some again.handle) = some again := by decide +kernel
  have seen : set.registry.visibleAccount? set.device Scope.owner (some other.handle) =
      some (other.withEnabled true) := by decide +kernel
  exact ⟨⟨reached.move _, first, by decide +kernel,
      not_namesManagers_of_named first shown (by decide +kernel)⟩,
    (Reachable.start start_sampleDevice).leads ⟨_, rfl⟩, second, by decide +kernel,
    not_namesManagers_of_named second seen (by decide +kernel)⟩

end Session

end PhoneAccounts

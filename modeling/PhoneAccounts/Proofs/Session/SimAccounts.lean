import PhoneAccounts.Proofs.Session.Stored
import PhoneAccounts.Proofs.StateFile.Text

/-!
Contract: which SIM accounts are switched on.

A registration switches a SIM on, and to switch one by hand is refused.  A start takes the
accounts of the file as they are: a SIM that is off there stays off, and nobody can switch it on.
A file that the registry wrote holds such a SIM only if the catalog did, whatever becomes of the
texts in it.

Owns: `HasSimsOn`, where a SIM that is off comes from, and the runs in which there is none.

Does not own: the switch of other accounts (see `PhoneAccounts.Proofs.Session.OrderedMap`).
-/

namespace PhoneAccounts

/-- Every SIM is switched on. -/
def Catalog.HasSimsOn (catalog : Catalog) : Prop :=
  ∀ account ∈ catalog.accounts, account.isSim = true → account.enabled = true

instance (catalog : Catalog) : Decidable catalog.HasSimsOn :=
  inferInstanceAs
    (Decidable (∀ account ∈ catalog.accounts, account.isSim = true → account.enabled = true))

@[simp] theorem Account.isSim_withEnabled (account : Account) (enabled : Bool) :
    (account.withEnabled enabled).isSim = account.isSim :=
  rfl

@[simp] theorem Account.enabled_withEnabled (account : Account) (enabled : Bool) :
    (account.withEnabled enabled).enabled = enabled :=
  rfl

/-- Where only switches are found that a catalog with every SIM on has, every SIM is on. -/
theorem Catalog.HasSimsOn.of_switches
    {stored catalog : Catalog}
    (on : stored.HasSimsOn)
    (known : ∀ account ∈ catalog.accounts,
      ∃ other ∈ stored.accounts, account.switches = other.switches) :
    catalog.HasSimsOn := by
  intro account member sim
  obtain ⟨other, listed, same⟩ := known account member
  rw [Account.isSim_eq_of_switches same] at sim
  exact (congrArg Prod.snd same).trans (on other listed sim)

/-! ## Changes -/

namespace Registry

variable {registry : Registry} {device : Device} {caller : Scope} {effect : Effect}

/-- A SIM is stored switched on, whatever was there before. -/
theorem enabled_storedAs_of_isSim
    (catalog : Catalog)
    {account : Account}
    (sim : account.isSim = true) :
    (storedAs catalog account).enabled = true := by
  rw [storedAs, Account.enabled_withEnabled, sim, Bool.or_true]

/-- A SIM that is off after a change was there before, and was off. -/
theorem mem_of_off_of_mem_effectOf
    {change : Change}
    (accepted : registry.effectOf device caller change = .ok effect)
    {account : Account}
    (member : account ∈ effect.catalog.accounts)
    (sim : account.isSim = true)
    (off : account.enabled = false) :
    account ∈ registry.catalog.accounts := by
  rcases mem_effectOf accepted member with
    before | ⟨registered, -, rfl⟩ | ⟨switched, -, enabled, noSim, rfl⟩
  · exact before
  · have on := enabled_storedAs_of_isSim registry.catalog sim
    exact absurd (on.symm.trans off) (by decide)
  · rw [Account.isSim_withEnabled, noSim] at sim
    exact absurd sim Bool.false_ne_true

/-- Switching a SIM is refused. -/
theorem effectOf_setEnabled_of_isSim
    {handle : Option Handle}
    {account : Account}
    (found : registry.account? handle = some account)
    (sim : account.isSim = true)
    (device : Device)
    (caller : Scope)
    (enabled : Bool) :
    registry.effectOf device caller (.setEnabled handle enabled) =
      .error (.rejected (.switchesSim account.handle)) := by
  rw [effectOf, setEnabledEffect, found]
  exact if_pos sim

end Registry

/-- A registry starts with accounts of the file. -/
theorem Startup.mem_of_mem_ofLoaded
    {directory : ScopeDirectory}
    {loaded : StateFile.LoadResult}
    {account : Account}
    (member : account ∈ (ofLoaded directory loaded).1.accounts) :
    ∃ catalog, loaded = .loaded catalog ∧ account ∈ catalog.accounts := by
  cases loaded with
  | loaded catalog =>
      have kept := Accounts.mem_of_mem_withoutDuplicates member
      exact ⟨catalog, rfl, (List.mem_filter.mp kept).1⟩
  | absent => exact absurd member List.not_mem_nil
  | corrupt => exact absurd member List.not_mem_nil

namespace Session

variable {session : Session}

/-! ## Where a SIM that is off comes from -/

/-- The catalog that a move finds in the file. -/
def loaded? (session : Session) : Move → Option Catalog
  | .restart processScope => (session.found processScope).toOption.bind (·.catalog?)
  | _ => none

theorem load_of_loaded?
    {move : Move}
    {catalog : Catalog}
    (loads : session.loaded? move = some catalog) :
    ∃ processScope,
      move = .restart processScope ∧ session.found processScope = .ok (.loaded catalog) := by
  cases move with
  | restart processScope =>
      refine ⟨processScope, rfl, ?_⟩
      obtain ⟨loaded, found, gives⟩ := Option.bind_eq_some_iff.mp loads
      cases loaded with
      | loaded other =>
          obtain rfl := Option.some.inj gives
          exact eq_ok_of_toOption found
      | absent => exact absurd gives (by simp [StateFile.LoadResult.catalog?])
      | corrupt => exact absurd gives (by simp [StateFile.LoadResult.catalog?])
  | change caller change => exact absurd loads (by simp [loaded?])
  | adjust adjustment => exact absurd loads (by simp [loaded?])
  | writeFile content => exact absurd loads (by simp [loaded?])
  | log lines => exact absurd loads (by simp [loaded?])

/-- The catalogs that the restarts of a run find in the file. -/
def loadedAlong (session : Session) : List Move → List Catalog
  | [] => []
  | move :: rest => (session.loaded? move).toList ++ (session.after move).loadedAlong rest

/-- A SIM that is off after a move was so before, or is so in the file. -/
theorem mem_of_off_of_mem_after
    {move : Move}
    {account : Account}
    (member : account ∈ (session.after move).registry.catalog.accounts)
    (sim : account.isSim = true)
    (off : account.enabled = false) :
    account ∈ session.registry.catalog.accounts ∨
      ∃ catalog, session.loaded? move = some catalog ∧ account ∈ catalog.accounts := by
  rcases catalog_after_cases session move with
    same | ⟨caller, change, effect, rfl, accepted, made⟩ | ⟨processScope, loaded, rfl, loads, begun⟩
  · rw [same] at member
    exact .inl member
  · rw [made] at member
    exact .inl (Registry.mem_of_off_of_mem_effectOf accepted member sim off)
  · rw [begun] at member
    obtain ⟨catalog, rfl, listed⟩ := Startup.mem_of_mem_ofLoaded member
    refine .inr ⟨catalog, ?_, listed⟩
    rw [loaded?, (foundForStart?_eq_some_iff.mp loads).1]
    rfl

/-- A SIM that is off after a run was so before it, or is so in a file that was found on the
way. -/
theorem mem_of_off_of_mem_makes
    {moves : List Move}
    {account : Account}
    (member : account ∈ (session.makes moves).registry.catalog.accounts)
    (sim : account.isSim = true)
    (off : account.enabled = false) :
    account ∈ session.registry.catalog.accounts ∨
      ∃ catalog ∈ session.loadedAlong moves, account ∈ catalog.accounts := by
  induction moves generalizing session with
  | nil => exact .inl member
  | cons move rest inductionHypothesis =>
      rw [makes_cons] at member
      rw [loadedAlong]
      rcases inductionHypothesis member with before | ⟨catalog, later, listed⟩
      · rcases mem_of_off_of_mem_after before sim off with first | ⟨catalog, loads, listed⟩
        · exact .inl first
        · have here : catalog ∈ (session.loaded? move).toList := Option.mem_toList.mpr loads
          exact .inr ⟨catalog, List.mem_append_left _ here, listed⟩
      · exact .inr ⟨catalog, List.mem_append_right _ later, listed⟩

/-! ## Files that the registry writes -/

/-- The move leaves the file to the registry, and the integers of what it saves can be written. -/
structure WritesFile (session : Session) (move : Move) : Prop where
  leaves : move.leavesFile = true
  short : ∀ catalog ∈ session.saved? move,
    (Yaml.Outline.mapping
      (StateFile.document session.device.directory catalog)).HasShortIntegers

instance (session : Session) (move : Move) : Decidable (session.WritesFile move) :=
  decidable_of_iff
    (move.leavesFile = true ∧
      ∀ catalog ∈ session.saved? move,
        (Yaml.Outline.mapping
          (StateFile.document session.device.directory catalog)).HasShortIntegers)
    ⟨fun ⟨leaves, short⟩ => ⟨leaves, short⟩, fun writes => ⟨writes.leaves, writes.short⟩⟩

/-- Every SIM is switched on, in the catalog and for everyone who reads the file. -/
structure KeepsSimsOn (session : Session) : Prop where
  inPlace : session.IsInPlace
  catalog : session.registry.catalog.HasSimsOn
  file : ∀ reader catalog, session.load reader = .ok (.loaded catalog) → catalog.HasSimsOn

/-- If one reader finds every SIM switched on, so does every other. -/
theorem hasSimsOn_of_reader
    {reader : StateFile.Reader}
    (on : ∀ catalog, session.load reader = .ok (.loaded catalog) → catalog.HasSimsOn)
    {other : StateFile.Reader}
    {catalog : Catalog}
    (loads : session.load other = .ok (.loaded catalog)) :
    catalog.HasSimsOn := by
  obtain ⟨found, foundLoads, alike⟩ := StateFile.loadWith_of_reader loads reader
  apply (on found foundLoads).of_switches
  intro account member
  have listed : account.switches ∈ found.accounts.map Account.switches := by
    rw [alike.accounts.switches]
    exact List.mem_map_of_mem member
  obtain ⟨known, knownMember, equal⟩ := List.mem_map.mp listed
  exact ⟨known, knownMember, equal.symm⟩

/-- What a reader finds depends on what stands in the file. -/
theorem load_eq_of_fileContent
    {left right : Session}
    (same : left.fileContent = right.fileContent)
    (reader : StateFile.Reader) :
    left.load reader = right.load reader := by
  unfold fileContent at same
  unfold load StateFile.load StateFile.loadWith
  rw [same]

/-- A file that was written with every SIM switched on is read so. -/
theorem hasSimsOn_of_written
    {written : ScopeDirectory}
    {stored : Catalog}
    (content : session.fileContent = .ok (StateFile.encode written stored))
    (short : (Yaml.Outline.mapping (StateFile.document written stored)).HasShortIntegers)
    (on : stored.HasSimsOn)
    {reader : StateFile.Reader}
    {catalog : Catalog}
    (loads : session.load reader = .ok (.loaded catalog)) :
    catalog.HasSimsOn := by
  unfold fileContent at content
  rw [load, StateFile.load, StateFile.loadWith, content] at loads
  have decoded := (StateFile.classify_eq_loaded_iff _ catalog).mp loads
  apply on.of_switches
  intro account member
  exact StateFile.switches_of_decode_encode short decoded member

theorem KeepsSimsOn.after
    (keeps : session.KeepsSimsOn)
    {move : Move}
    (writes : session.WritesFile move) :
    (session.after move).KeepsSimsOn := by
  have on : (session.after move).registry.catalog.HasSimsOn := by
    intro account member sim
    by_contra off
    rw [Bool.not_eq_true] at off
    rcases mem_of_off_of_mem_after member sim off with before | ⟨catalog, loads, listed⟩
    · exact absurd (keeps.catalog account before sim) (by simp [off])
    · obtain ⟨processScope, -, found⟩ := load_of_loaded? loads
      have fileOn := keeps.file _ catalog found
      exact absurd (fileOn account listed sim) (by simp [off])
  refine ⟨keeps.inPlace.after move, on, ?_⟩
  intro reader catalog loads
  rcases fileContent_after_or_saved keeps.inPlace writes.leaves with
    same | ⟨saved, saves, succeeds⟩
  · rw [load_eq_of_fileContent same] at loads
    exact keeps.file reader catalog loads
  · have content := fileContent_after_of_saved? keeps.inPlace writes.leaves saves succeeds
    have short := writes.short saved saves
    rw [← catalog_after_of_saved? saves] at short
    exact hasSimsOn_of_written content short on loads

/-! ## Starts -/

/-- A session before its registry has started. -/
def idle (device : Device) (processScope : Scope) : Session :=
  ⟨device,
    ⟨.empty, processScope, processScope, Registry.upgradesOf device.settings,
      device.settings.stateFile⟩,
    .empty, []⟩

/-- A start is a restart with nothing before it. -/
theorem restarted_idle
    {device : Device}
    {processScope : Scope}
    (started : start device processScope = .ok session) :
    (idle device processScope).restarted processScope = session := by
  have silent : session.lines = [] := by
    obtain ⟨registry, left, -, rfl⟩ := start_eq_ok started
    rfl
  have begun : start (idle device processScope).device processScope = .ok session := started
  unfold restarted
  rw [begun]
  show ({ session with lines := [] } : Session) = session
  rw [← silent]

/-- A registry starts where a restart finds nothing in its way. -/
theorem start_eq_ok_of_found
    {device : Device}
    {processScope : Scope}
    {loaded : StateFile.LoadResult}
    (found : (idle device processScope).foundForStart? processScope = some loaded) :
    start device processScope = .ok ((idle device processScope).restarted processScope) := by
  obtain ⟨loads, free⟩ := foundForStart?_eq_some_iff.mp found
  obtain ⟨session, started⟩ : ∃ session, start device processScope = .ok session := by
    have begun : Registry.start device processScope = _ := Registry.startWith_eq_ok loads free
    unfold start
    rw [begun]
    exact ⟨_, rfl⟩
  rw [restarted_idle started, started]

/-- However a session goes on, a SIM that is off in it came so, unchanged, from the file that the
start or a restart found.  If in the file of the start every SIM was on, and only the registry
writes the file from then on, every SIM is on; if not, nobody can switch it on. -/
theorem sims_areOn_unless_foundOff
    {device : Device}
    {processScope : Scope}
    (started : start device processScope = .ok session)
    (moves : List Move) :
    let begun := idle device processScope
    let later := session.makes moves
    (∀ account ∈ later.registry.catalog.accounts,
        account.isSim = true → account.enabled = false →
          ∃ catalog,
            (begun.found processScope = .ok (.loaded catalog) ∨
              catalog ∈ session.loadedAlong moves) ∧
            account ∈ catalog.accounts) ∧
      ((∀ catalog, begun.found processScope = .ok (.loaded catalog) → catalog.HasSimsOn) →
        Along WritesFile begun (.restart processScope :: moves) →
          later.registry.catalog.HasSimsOn) ∧
      ∀ handle account, later.registry.account? handle = some account →
        account.isSim = true →
          ∀ caller enabled,
            later.registry.effectOf later.device caller (.setEnabled handle enabled) =
              .error (.rejected (.switchesSim account.handle)) := by
  intro begun later
  have first : begun.after (.restart processScope) = session := restarted_idle started
  refine ⟨?_, ?_, ?_⟩
  · intro account member sim off
    rcases mem_of_off_of_mem_makes member sim off with before | ⟨catalog, loads, listed⟩
    · rw [← first] at before
      rcases mem_of_off_of_mem_after before sim off with nothing | ⟨catalog, loads, listed⟩
      · exact absurd nothing List.not_mem_nil
      · obtain ⟨scope, same, found⟩ := load_of_loaded? loads
        obtain rfl := Move.restart.inj same
        exact ⟨catalog, .inl found, listed⟩
    · exact ⟨catalog, .inr loads, listed⟩
  · intro foundOn writes
    have kept : KeepsSimsOn (begun.makes (.restart processScope :: moves)) := by
      apply writes.keeps
      · intro session move keeps met
        exact keeps.after met
      · refine ⟨rfl, ?_, ?_⟩
        · exact fun account member => absurd member List.not_mem_nil
        · exact fun reader catalog loads => hasSimsOn_of_reader foundOn loads
    rw [makes_cons, first] at kept
    exact kept.catalog
  · intro handle account found sim caller enabled
    exact Registry.effectOf_setEnabled_of_isSim found sim later.device caller enabled

/-! ## Samples -/

/-- A file of the current version with one SIM, which is on or off. -/
def simFile (enabled : Bool) : List UInt8 :=
  Text.Utf8.encode
    ("phone_account_registrar_state:\n  version: 5\n  accounts:\n  - account_handle:\n" ++
      "      component_name: com.calls/Service\n      id: line\n      user_serial_number: 0\n" ++
      "    capabilities: 4\n    enabled: " ++ (if enabled then "true\n" else "false\n")).toList

def simDevice (enabled : Bool) : Device :=
  { sampleDevice with
    settings := { sampleDevice.settings with stateFile := ⟨0, ["state.yaml"]⟩ }
    files := .directory [("state.yaml", .file (simFile enabled))] }

/-- The SIM that stands in the file. -/
def fileSim (enabled : Bool) : Account :=
  { sampleAccount Scope.owner with
    capabilities := Capability.simSubscription.mask
    schemes := []
    enabled := enabled }

/-- The session that begins on the device. -/
def simSession (enabled : Bool) : Session :=
  { idle (simDevice enabled) Scope.owner with
    registry := { (idle (simDevice enabled) Scope.owner).registry with
      catalog := { accounts := [fileSim enabled] } } }

theorem found_simDevice (enabled : Bool) :
    (idle (simDevice enabled) Scope.owner).found Scope.owner =
      .ok (.loaded { accounts := [fileSim enabled] }) := by
  apply eq_ok_of_toOption
  cases enabled <;> decide +kernel

/-- The start has nothing to correct. -/
theorem ofLoaded_fileSim (enabled : Bool) :
    Startup.ofLoaded (idle (simDevice enabled) Scope.owner).device.directory
        (.loaded { accounts := [fileSim enabled] }) =
      ({ accounts := [fileSim enabled] }, false) := by
  cases enabled <;> decide +kernel

theorem foundForStart?_simDevice (enabled : Bool) :
    (idle (simDevice enabled) Scope.owner).foundForStart? Scope.owner =
      some (.loaded { accounts := [fileSim enabled] }) := by
  have unsaved := congrArg Prod.snd (ofLoaded_fileSim enabled)
  exact foundForStart?_eq_some_iff.mpr
    ⟨found_simDevice enabled, Startup.not_isBlocked_of_unsaved unsaved⟩

theorem start_simDevice (enabled : Bool) :
    start (simDevice enabled) Scope.owner = .ok (simSession enabled) := by
  have found := foundForStart?_simDevice enabled
  rw [start_eq_ok_of_found found, restarted_of_found found, ofLoaded_fileSim enabled]
  rfl

/-- A second SIM comes, the first is to be switched off, and the registry starts again. -/
def simMoves : List Move :=
  [.change Scope.owner (.register { fileSim false with
      handle := ⟨⟨"com.calls", "Service"⟩, "other", some ⟨10⟩⟩ }),
    .change Scope.owner (.setEnabled (fileSim true).handle false),
    .restart ⟨10⟩]

/-- Both SIMs are on in the end. -/
theorem simMoves_areOn :
    ((simSession true).makes simMoves).registry.catalog.accounts.map Account.switches =
        [(4, true), (4, true)] ∧
      ((simSession true).makes simMoves).registry.catalog.HasSimsOn := by
  have begun := start_simDevice true
  have writes : Along WritesFile (idle (simDevice true) Scope.owner)
      (.restart Scope.owner :: simMoves) := by
    refine ⟨⟨rfl, ?_⟩, ?_⟩
    · intro catalog saves
      rw [saved?, foundForStart?_simDevice true] at saves
      simp only [ofLoaded_fileSim true] at saves
      exact absurd saves (by simp)
    · rw [after, restarted_idle begun]
      decide +kernel
  have foundOn : ∀ catalog, (idle (simDevice true) Scope.owner).found Scope.owner =
      .ok (.loaded catalog) → catalog.HasSimsOn := by
    intro catalog loads
    rw [found_simDevice true] at loads
    rw [← StateFile.LoadResult.loaded.inj (Except.ok.inj loads)]
    decide +kernel
  exact ⟨by decide +kernel, (sims_areOn_unless_foundOff begun simMoves).2.1 foundOn writes⟩

/-- A SIM that is off in the file is off in the registry, and cannot be switched on. -/
theorem fileSim_staysOff :
    start (simDevice false) Scope.owner = .ok (simSession false) ∧
      ¬ (simSession false).registry.catalog.HasSimsOn ∧
      (simSession false).after
          (.change Scope.owner (.setEnabled (fileSim false).handle true)) =
        simSession false := by
  have known : (simSession false).registry.account? (fileSim false).handle =
      some (fileSim false) := by decide +kernel
  exact ⟨start_simDevice false, by decide +kernel,
    carriedOut_of_refused
      (Registry.effectOf_setEnabled_of_isSim known (by decide +kernel) _ Scope.owner true)⟩

end Session

end PhoneAccounts

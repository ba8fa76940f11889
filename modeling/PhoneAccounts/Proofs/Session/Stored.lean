import PhoneAccounts.Proofs.Session.OrderedMap
import PhoneAccounts.Proofs.StateFile.Storable

/-!
Contract: what each move makes of the state file.

A move saves at most one catalog: an accepted change the one that it leads to, a start the one
that it had to correct.  As long as nobody writes the file from outside, a move leaves the file
as it is or puts the document of that catalog there, written with the scopes of the moment.

Owns: `saved?`, `voice?`, `Holds`, what a move leaves of the device, in the file and in the
registry, and conditions on the moves of a run.

Does not own: what the saved catalogs are like.
-/

namespace PhoneAccounts

/-- The adjustment does not touch the state file. -/
def Adjustment.leavesFile : Adjustment → Bool
  | .deleteFile => false
  | .blockFile => false
  | _ => true

/-- If the move touches the state file, it is the registry that saves it. -/
def Move.leavesFile : Move → Bool
  | .writeFile _ => false
  | .adjust adjustment => adjustment.leavesFile
  | _ => true

def Move.isRestart : Move → Bool
  | .restart _ => true
  | _ => false

namespace Session

/-! ## What is saved -/

/-- What a reader finds in the file of a session. -/
def load (session : Session) (reader : StateFile.Reader) :
    Except StateFile.Stop StateFile.LoadResult :=
  StateFile.load reader session.device.settings.stateFile session.device.files

/-- What a start finds in the state file. -/
def found (session : Session) (processScope : Scope) : Except StateFile.Stop StateFile.LoadResult :=
  session.load (Registry.startReader session.device processScope)

/-- What a restart finds in the file, if that does not keep it from starting. -/
def foundForStart? (session : Session) (processScope : Scope) : Option StateFile.LoadResult :=
  (session.found processScope).toOption.filter fun loaded =>
    !decide (Startup.IsBlocked session.device.directory loaded)

/-- The catalog that a move saves, or tries to. -/
def saved? (session : Session) : Move → Option Catalog
  | .change caller change =>
      match session.registry.effectOf session.device caller change with
      | .ok effect => some effect.catalog
      | .error _ => none
  | .restart processScope =>
      match session.foundForStart? processScope with
      | some loaded =>
          let (catalog, mustSave) := Startup.ofLoaded session.device.directory loaded
          if mustSave then some catalog else none
      | none => none
  | _ => none

/-- The files after saving a catalog; none if it cannot be saved. -/
def filesSaving? (session : Session) (catalog : Catalog) : Option Entry :=
  StateFile.save? session.device.directory session.device.settings.stateFile catalog
    session.device.files

/-- What stands in the state file. -/
def fileContent (session : Session) : Except ReadFault (List UInt8) :=
  session.device.files.read session.device.settings.stateFile.parts

/-- The registry keeps its catalog where the device is set to. -/
def IsInPlace (session : Session) : Prop :=
  session.registry.stateFile = session.device.settings.stateFile

/-- The file stores a catalog, written with some scopes, and its text can be read. -/
structure Holds (session : Session) (written : ScopeDirectory) (stored : Catalog) : Prop where
  content : session.fileContent = .ok (StateFile.encode written stored)
  readsBack : StateFile.ReadsBack written stored

/-- Where the file stores a catalog, that is what any reader finds in it. -/
theorem Holds.load
    {session : Session}
    {written : ScopeDirectory}
    {stored : Catalog}
    (holds : session.Holds written stored)
    (reader : StateFile.Reader) :
    session.load reader = .ok (StateFile.storedResult reader written stored) :=
  StateFile.loadWith_of_stored holds.content holds.readsBack reader

/-! ## Restarts -/

theorem foundForStart?_eq_some_iff
    {session : Session}
    {processScope : Scope}
    {loaded : StateFile.LoadResult} :
    session.foundForStart? processScope = some loaded ↔
      session.found processScope = .ok loaded ∧
        ¬ Startup.IsBlocked session.device.directory loaded := by
  unfold foundForStart?
  cases session.found processScope with
  | error stop => simp [Except.toOption]
  | ok found =>
      simp only [Except.toOption, Option.filter_eq_some_iff, Option.some.injEq, Except.ok.injEq,
        Bool.not_eq_true', decide_eq_false_iff_not]

/-- A restart on a file that can be loaded: a new registry with the corrected catalog, which is
saved if it had to be corrected. -/
theorem restarted_of_found
    {session : Session}
    {processScope : Scope}
    {loaded : StateFile.LoadResult}
    (loads : session.foundForStart? processScope = some loaded) :
    session.restarted processScope =
      let (catalog, mustSave) := Startup.ofLoaded session.device.directory loaded
      let registry : Registry :=
        ⟨catalog, processScope, processScope, Registry.upgradesOf session.device.settings,
          session.device.settings.stateFile⟩
      ⟨if mustSave then registry.save session.device else session.device, registry, .empty,
        session.lines⟩ := by
  obtain ⟨loads, free⟩ := foundForStart?_eq_some_iff.mp loads
  unfold restarted start
  rw [Registry.start, Registry.startWith_eq_ok loads free]
  rfl

theorem restarted_of_stopped
    {session : Session}
    {processScope : Scope}
    (stops : session.foundForStart? processScope = none) :
    session.restarted processScope = session := by
  cases begun : Registry.start session.device processScope with
  | error stop =>
      unfold restarted start
      rw [begun]
      rfl
  | ok started =>
      obtain ⟨loaded, loads, free, -⟩ := Registry.load_of_startWith_eq_ok begun
      exact nomatch stops.symm.trans (foundForStart?_eq_some_iff.mpr ⟨loads, free⟩)

/-- A registry that can start is the one of the restart. -/
theorem restarted_of_start
    {session fresh : Session}
    {processScope : Scope}
    (starts : start session.device processScope = .ok fresh) :
    (session.foundForStart? processScope).isSome = true ∧
      session.restarted processScope = { fresh with lines := session.lines } := by
  refine ⟨?_, by rw [restarted, starts]⟩
  obtain ⟨_, _, begun, -⟩ := start_eq_ok starts
  obtain ⟨loaded, loads, free, -⟩ := Registry.load_of_startWith_eq_ok begun
  exact Option.isSome_iff_exists.mpr ⟨loaded, foundForStart?_eq_some_iff.mpr ⟨loads, free⟩⟩

/-- The catalog after a restart: the corrected one, or the old one if the file stops it. -/
theorem catalog_restarted (session : Session) (processScope : Scope) :
    (session.restarted processScope).registry.catalog =
      match session.foundForStart? processScope with
      | some loaded => (Startup.ofLoaded session.device.directory loaded).1
      | none => session.registry.catalog := by
  cases loads : session.foundForStart? processScope with
  | some loaded => rw [restarted_of_found loads]
  | none => rw [restarted_of_stopped loads]

/-- A move leaves the catalog as it is, or carries out a change that is accepted, or starts the
registry again on a file that can be loaded. -/
theorem catalog_after_cases (session : Session) (move : Move) :
    (session.after move).registry.catalog = session.registry.catalog ∨
      (∃ caller change effect,
        move = .change caller change ∧
          session.registry.effectOf session.device caller change = .ok effect ∧
          (session.after move).registry.catalog = effect.catalog) ∨
      ∃ processScope loaded,
        move = .restart processScope ∧
          session.foundForStart? processScope = some loaded ∧
          (session.after move).registry.catalog =
            (Startup.ofLoaded session.device.directory loaded).1 := by
  cases move with
  | change caller change =>
      rw [after]
      cases decided : session.registry.effectOf session.device caller change with
      | error refusal => exact .inl (by rw [carriedOut_of_refused decided])
      | ok effect =>
          refine .inr (.inl ⟨caller, change, effect, rfl, decided, ?_⟩)
          rw [carriedOut_of_accepted decided]
          rfl
  | adjust adjustment => exact .inl (catalog_adjust session adjustment)
  | writeFile content => exact .inl (by rw [after, registry_writeFile])
  | restart processScope =>
      rw [after, catalog_restarted]
      cases loads : session.foundForStart? processScope with
      | none => exact .inl rfl
      | some loaded => exact .inr (.inr ⟨processScope, loaded, rfl, loads, rfl⟩)
  | log lines => exact .inl rfl

/-! ## What a move leaves of the device -/

/-- The subscription for calls that a move sets. -/
def voice? (session : Session) : Move → Option Int
  | .change caller change =>
      match session.registry.effectOf session.device caller change with
      | .ok effect => effect.voice
      | .error _ => none
  | _ => none

/-- Apart from an adjustment, a move touches the subscription for calls and the files alone. -/
theorem device_after
    (session : Session)
    {move : Move}
    (noAdjustment : ∀ adjustment, move ≠ .adjust adjustment) :
    ∃ files, (session.after move).device =
      { Registry.applyVoice session.device (session.voice? move) with files := files } := by
  cases move with
  | change caller change =>
      rw [after, voice?]
      cases decided : session.registry.effectOf session.device caller change with
      | error refusal => exact ⟨session.device.files, by rw [carriedOut_of_refused decided]; rfl⟩
      | ok effect => exact ⟨_, by rw [carriedOut_of_accepted decided]; rfl⟩
  | adjust adjustment => exact absurd rfl (noAdjustment adjustment)
  | writeFile content =>
      rw [after, writeFile]
      cases session.device.files.write? content session.registry.stateFile.parts with
      | none => exact ⟨session.device.files, rfl⟩
      | some files => exact ⟨files, rfl⟩
  | restart processScope =>
      rw [after]
      cases loads : session.foundForStart? processScope with
      | none => exact ⟨session.device.files, by rw [restarted_of_stopped loads]; rfl⟩
      | some loaded =>
          rw [restarted_of_found loads]
          dsimp only
          split
          · exact ⟨_, rfl⟩
          · exact ⟨session.device.files, rfl⟩
  | log lines => exact ⟨session.device.files, rfl⟩

theorem installs_after
    (session : Session)
    {move : Move}
    (noAdjustment : ∀ adjustment, move ≠ .adjust adjustment) :
    (session.after move).device.installs = session.device.installs := by
  obtain ⟨files, device⟩ := session.device_after noAdjustment
  rw [device, Registry.applyVoice_eq]

theorem settings_after
    (session : Session)
    {move : Move}
    (noAdjustment : ∀ adjustment, move ≠ .adjust adjustment) :
    (session.after move).device.settings = session.device.settings := by
  obtain ⟨files, device⟩ := session.device_after noAdjustment
  rw [device, Registry.applyVoice_eq]

/-! ## What a move leaves in the file -/

/-- No move puts the file at another place. -/
theorem stateFile_after (session : Session) (move : Move) :
    (session.after move).device.settings.stateFile = session.device.settings.stateFile := by
  by_cases adjusts : ∃ adjustment, move = .adjust adjustment
  · obtain ⟨adjustment, rfl⟩ := adjusts
    cases adjustment <;> rfl
  · rw [settings_after session (not_exists.mp adjusts)]

theorem IsInPlace.after
    {session : Session}
    (inPlace : session.IsInPlace)
    (move : Move) :
    (session.after move).IsInPlace := by
  unfold IsInPlace at inPlace ⊢
  rw [stateFile_after]
  cases move with
  | change caller change =>
      rw [Session.after, carriedOut]
      cases session.registry.effectOf session.device caller change <;> exact inPlace
  | adjust adjustment => cases adjustment <;> exact inPlace
  | writeFile content =>
      rw [Session.after, registry_writeFile]
      exact inPlace
  | restart processScope =>
      rw [Session.after]
      cases loads : session.foundForStart? processScope with
      | some loaded => rw [restarted_of_found loads]
      | none =>
          rw [restarted_of_stopped loads]
          exact inPlace
  | log lines => exact inPlace

theorem isInPlace_start
    {device : Device}
    {processScope : Scope}
    {session : Session}
    (started : start device processScope = .ok session) :
    session.IsInPlace := by
  obtain ⟨registry, device', begun, rfl⟩ := start_eq_ok started
  obtain ⟨loaded, -, -, same⟩ := Registry.load_of_startWith_eq_ok begun
  obtain ⟨rfl, rfl⟩ := Prod.mk.inj same
  exact (congrArg Settings.stateFile (Registry.settings_begun device processScope loaded)).symm

/-- In every session that can come about, the registry keeps its catalog in its place. -/
theorem Reachable.isInPlace {session : Session} (reached : Reachable session) :
    session.IsInPlace := by
  induction reached with
  | start started => exact isInPlace_start started
  | move _ move inductionHypothesis => exact inductionHypothesis.after move

/-- A move that leaves the file to the registry changes the files by saving its catalog, if it
has one, and not otherwise. -/
theorem files_after
    {session : Session}
    (inPlace : session.IsInPlace)
    {move : Move}
    (leaves : move.leavesFile = true) :
    (session.after move).device.files =
      ((session.saved? move).bind session.filesSaving?).getD session.device.files := by
  unfold IsInPlace at inPlace
  cases move with
  | change caller change =>
      rw [saved?, after]
      cases decided : session.registry.effectOf session.device caller change with
      | error refusal =>
          rw [carriedOut_of_refused decided]
          rfl
      | ok effect =>
          rw [carriedOut_of_accepted decided]
          dsimp only
          rw [(Registry.commit_snd session.registry session.device effect).2.2, inPlace,
            Option.bind_some, filesSaving?]
  | adjust adjustment =>
      cases adjustment with
      | deleteFile => exact absurd leaves Bool.false_ne_true
      | blockFile => exact absurd leaves Bool.false_ne_true
      | _ => rfl
  | writeFile content => exact absurd leaves Bool.false_ne_true
  | restart processScope =>
      rw [saved?, after]
      cases loads : session.foundForStart? processScope with
      | none =>
          rw [restarted_of_stopped loads]
          rfl
      | some loaded =>
          rw [restarted_of_found loads]
          dsimp only
          cases (Startup.ofLoaded session.device.directory loaded).2 with
          | false => rfl
          | true => exact StateFile.save_fst_eq_getD _ _ _ _
  | log lines => rfl

/-- What a move saves is the catalog in use after it. -/
theorem catalog_after_of_saved?
    {session : Session}
    {move : Move}
    {catalog : Catalog}
    (saves : session.saved? move = some catalog) :
    (session.after move).registry.catalog = catalog := by
  cases move with
  | change caller change =>
      rw [saved?] at saves
      rw [after]
      cases decided : session.registry.effectOf session.device caller change with
      | error refusal =>
          rw [decided] at saves
          exact absurd saves (by simp)
      | ok effect =>
          rw [decided] at saves
          rw [carriedOut_of_accepted decided]
          exact Option.some.inj saves
  | restart processScope =>
      rw [saved?] at saves
      rw [after, catalog_restarted]
      cases loads : session.foundForStart? processScope with
      | none =>
          rw [loads] at saves
          exact absurd saves (by simp)
      | some loaded =>
          rw [loads] at saves
          dsimp only at saves
          split at saves
          · exact Option.some.inj saves
          · exact absurd saves (by simp)
  | adjust adjustment => exact absurd saves (by simp [saved?])
  | writeFile content => exact absurd saves (by simp [saved?])
  | log lines => exact absurd saves (by simp [saved?])

/-- Where saving succeeds, the file is the document of the catalog in use, written with the scopes
that were known. -/
theorem fileContent_after_of_saved?
    {session : Session}
    (inPlace : session.IsInPlace)
    {move : Move}
    (leaves : move.leavesFile = true)
    {catalog : Catalog}
    (saves : session.saved? move = some catalog)
    (succeeds : (session.filesSaving? catalog).isSome = true) :
    (session.after move).fileContent =
      .ok (StateFile.encode session.device.directory (session.after move).registry.catalog) := by
  obtain ⟨after, saved⟩ := Option.isSome_iff_exists.mp succeeds
  rw [catalog_after_of_saved? saves, fileContent, stateFile_after, files_after inPlace leaves,
    saves, Option.bind_some, saved, Option.getD_some]
  exact StateFile.read_of_save?_eq_some saved

theorem holds_after
    {session : Session}
    (inPlace : session.IsInPlace)
    {move : Move}
    (leaves : move.leavesFile = true)
    (readsBack : ∀ catalog ∈ session.saved? move,
      StateFile.ReadsBack session.device.directory catalog)
    {catalog : Catalog}
    (saves : session.saved? move = some catalog)
    (succeeds : (session.filesSaving? catalog).isSome = true) :
    (session.after move).Holds session.device.directory
      (session.after move).registry.catalog := by
  refine ⟨fileContent_after_of_saved? inPlace leaves saves succeeds, ?_⟩
  rw [catalog_after_of_saved? saves]
  exact readsBack catalog saves

/-- After a move the file is what it was, or a catalog was saved with success. -/
theorem fileContent_after_or_saved
    {session : Session}
    (inPlace : session.IsInPlace)
    {move : Move}
    (leaves : move.leavesFile = true) :
    (session.after move).fileContent = session.fileContent ∨
      ∃ catalog, session.saved? move = some catalog ∧
        (session.filesSaving? catalog).isSome = true := by
  by_cases succeeds : ((session.saved? move).bind session.filesSaving?).isSome = true
  · obtain ⟨after, saved⟩ := Option.isSome_iff_exists.mp succeeds
    obtain ⟨catalog, saves, saved⟩ := Option.bind_eq_some_iff.mp saved
    exact .inr ⟨catalog, saves, Option.isSome_of_eq_some saved⟩
  · rw [Option.not_isSome_iff_eq_none] at succeeds
    rw [fileContent, stateFile_after, files_after inPlace leaves, succeeds]
    exact .inl rfl

/-- After a move the file is what it was, or it holds the catalog in use, which was saved. -/
theorem fileContent_after
    {session : Session}
    (inPlace : session.IsInPlace)
    {move : Move}
    (leaves : move.leavesFile = true)
    (readsBack : ∀ catalog ∈ session.saved? move,
      StateFile.ReadsBack session.device.directory catalog) :
    (session.after move).fileContent = session.fileContent ∨
      (session.saved? move).isSome = true ∧
        (session.after move).Holds session.device.directory
          (session.after move).registry.catalog := by
  rcases fileContent_after_or_saved inPlace leaves with same | ⟨catalog, saves, succeeds⟩
  · exact .inl same
  · exact .inr ⟨Option.isSome_of_eq_some saves,
      holds_after inPlace leaves readsBack saves succeeds⟩

/-! ## Changes that are accepted -/

/-- The move is a change that is accepted. -/
def Accepts (session : Session) (move : Move) : Prop :=
  ∃ caller change effect,
    move = .change caller change ∧
      session.registry.effectOf session.device caller change = .ok effect

/-- If the move touches the file, it saves a catalog there, with success, and the text of its
document can be read. -/
structure SavesWell (session : Session) (move : Move) : Prop where
  leaves : move.leavesFile = true
  succeeds : ∀ catalog ∈ session.saved? move, (session.filesSaving? catalog).isSome = true
  readsBack : ∀ catalog ∈ session.saved? move,
    StateFile.ReadsBack session.device.directory catalog

instance (session : Session) (move : Move) : Decidable (session.SavesWell move) :=
  decidable_of_iff
    (move.leavesFile = true ∧
      (∀ catalog ∈ session.saved? move, (session.filesSaving? catalog).isSome = true) ∧
      ∀ catalog ∈ session.saved? move, StateFile.ReadsBack session.device.directory catalog)
    ⟨fun ⟨leaves, succeeds, readsBack⟩ => ⟨leaves, succeeds, readsBack⟩,
      fun saves => ⟨saves.leaves, saves.succeeds, saves.readsBack⟩⟩

/-- After an accepted change the file stores the catalog in use. -/
theorem holds_of_accepts
    {session : Session}
    (inPlace : session.IsInPlace)
    {move : Move}
    (saves : session.SavesWell move)
    (accepts : session.Accepts move) :
    (session.after move).Holds session.device.directory
      (session.after move).registry.catalog := by
  obtain ⟨caller, change, effect, rfl, accepted⟩ := accepts
  have saved : session.saved? (.change caller change) = some effect.catalog := by
    rw [saved?, accepted]
  exact holds_after inPlace saves.leaves saves.readsBack saved (saves.succeeds _ saved)

/-! ## Runs under a condition -/

/-- A condition on moves is met by every move of a run, where it is made. -/
def Along (condition : Session → Move → Prop) (session : Session) : List Move → Prop
  | [] => True
  | move :: rest => condition session move ∧ Along condition (session.after move) rest

instance instDecidableAlong
    (condition : Session → Move → Prop)
    [decides : ∀ session move, Decidable (condition session move)]
    (session : Session)
    (moves : List Move) :
    Decidable (Along condition session moves) :=
  match moves with
  | [] => isTrue trivial
  | move :: rest =>
      have : Decidable (Along condition (session.after move) rest) :=
        instDecidableAlong condition (session.after move) rest
      inferInstanceAs
        (Decidable (condition session move ∧ Along condition (session.after move) rest))

theorem Along.append_left
    {condition : Session → Move → Prop}
    {session : Session}
    {before rest : List Move}
    (along : Along condition session (before ++ rest)) :
    Along condition session before := by
  induction before generalizing session with
  | nil => trivial
  | cons move before inductionHypothesis => exact ⟨along.1, inductionHypothesis along.2⟩

theorem Along.append_right
    {condition : Session → Move → Prop}
    {session : Session}
    {before rest : List Move}
    (along : Along condition session (before ++ rest)) :
    Along condition (session.makes before) rest := by
  induction before generalizing session with
  | nil => exact along
  | cons move before inductionHypothesis =>
      rw [makes_cons]
      exact inductionHypothesis along.2

/-- A condition on the moves of a run alone can be added. -/
theorem Along.and_forall
    {condition : Session → Move → Prop}
    {property : Move → Prop}
    {session : Session}
    {moves : List Move}
    (along : Along condition session moves)
    (all : ∀ move ∈ moves, property move) :
    Along (fun session move => condition session move ∧ property move) session moves := by
  induction moves generalizing session with
  | nil => trivial
  | cons move rest inductionHypothesis =>
      exact ⟨⟨along.1, all move List.mem_cons_self⟩,
        inductionHypothesis along.2 fun later member =>
          all later (List.mem_cons_of_mem move member)⟩

/-- What every move keeps that meets the condition, a run keeps whose moves all meet it. -/
theorem Along.keeps
    {condition : Session → Move → Prop}
    (holds : Session → Prop)
    (step : ∀ session move, holds session → condition session move → holds (session.after move))
    {session : Session}
    (held : holds session)
    {moves : List Move}
    (along : Along condition session moves) :
    holds (session.makes moves) := by
  induction moves generalizing session with
  | nil => exact held
  | cons move rest inductionHypothesis =>
      rw [makes_cons]
      exact inductionHypothesis (step session move held along.1) along.2

/-- What every such move keeps of a session whose catalog is in use, a run of them keeps. -/
theorem Along.keeps_of_inUse
    {condition : Session → Move → Prop}
    (holds : Session → Prop)
    (step : ∀ session move, session.registry.catalog.InUse → holds session →
      condition session move → holds (session.after move))
    {session : Session}
    (inUse : session.registry.catalog.InUse)
    (held : holds session)
    {moves : List Move}
    (along : Along condition session moves) :
    holds (session.makes moves) := by
  have both := along.keeps (fun session => session.registry.catalog.InUse ∧ holds session)
    (fun session move before met =>
      ⟨inUse_after before.1 move, step session move before.1 before.2 met⟩)
    ⟨inUse, held⟩
  exact both.2

end Session

end PhoneAccounts

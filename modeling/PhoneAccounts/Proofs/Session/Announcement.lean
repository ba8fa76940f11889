import PhoneAccounts.Proofs.Session.OrderedMap

/-!
Contract: a change is carried out as a whole and then announced, or nothing happens.

A refused change leaves the session as it is and nobody hears of it.  An accepted one is
carried out and saved before the first listener is told, and each entry of the bus is told
once.  This holds as long as the listeners do not change the catalog themselves; they may ask,
fail, and change what is around the catalog, the bus included.

Owns: `Change.event`, `Change.onCatalog`, quiet listeners, `tellings`, and that every change is
all or nothing.

Does not own: which changes are refused.
-/

namespace PhoneAccounts

/-! ## What a change means -/

namespace Change

/-- The event that tells of a change. -/
def event : Change → Event
  | .setDefaultOutgoing _ => .defaultOutgoing
  | .setCallManager _ => .simCallManager
  | _ => .accounts

/-- The catalog that an accepted change makes: what it means for the accounts, and the choice
that it makes among them. -/
def onCatalog (change : Change) (catalog : Catalog) : Catalog where
  accounts := (change.onEntries catalog.entries).map Prod.snd
  defaultOutgoing := match change with
    | .setDefaultOutgoing handle => handle
    | _ => catalog.defaultOutgoing
  simCallManager := match change with
    | .setCallManager handle => some (handle.getD Handle.noneSelected)
    | _ => catalog.simCallManager
  version := catalog.version

end Change

/-- The answer says that a change was not carried out. -/
def Answer.isRefusal : Answer → Bool
  | .denied => true
  | .outcome (.rejected _) => true
  | _ => false

namespace Answer

theorem isRefusal_ofSuccess (change : Change) : (ofSuccess change).isRefusal = false := by
  cases change <;> rfl

theorem stopped_ne_ofSuccess (stop : StateFile.Stop) (change : Change) :
    stopped stop ≠ ofSuccess change := by
  cases change <;> nofun

theorem ofRefusal_ne_ofSuccess (refusal : Refusal) (change : Change) :
    ofRefusal refusal ≠ ofSuccess change := by
  cases refusal with
  | denied => cases change <;> nofun
  | rejected reason => cases writable : reason.isWritable <;> cases change <;>
      simp [ofRefusal, ofSuccess, writable]

/-- Only a rejection whose reason cannot be put into words is not answered as a refusal. -/
theorem rejected_of_unrefused
    {refusal : Refusal}
    (unrefused : (ofRefusal refusal).isRefusal = false) :
    ∃ reason, refusal = .rejected reason ∧ reason.isWritable = false := by
  cases refusal with
  | denied => exact absurd unrefused (by simp [ofRefusal, isRefusal])
  | rejected reason =>
      refine ⟨reason, rfl, ?_⟩
      cases writable : reason.isWritable with
      | true => simp [ofRefusal, isRefusal, writable] at unrefused
      | false => rfl

end Answer

theorem Catalog.map_snd_entries (catalog : Catalog) :
    catalog.entries.map Prod.snd = catalog.accounts := by
  rw [Catalog.entries, Accounts.entries, List.map_map]
  exact List.map_id catalog.accounts

namespace Registry

variable {registry : Registry} {device : Device} {caller : Scope} {effect : Effect}

theorem event_effectOf
    {change : Change}
    (accepted : registry.effectOf device caller change = .ok effect) :
    effect.event = change.event := by
  cases change with
  | register account =>
      rw [(registerEffect_eq_ok accepted).2]
      rfl
  | unregister handle =>
      obtain ⟨account, -, rfl⟩ := unregisterEffect_eq_ok accepted
      rfl
  | clear package scope =>
      rw [(clearEffect_eq_ok accepted).2]
      rfl
  | setEnabled handle enabled =>
      obtain ⟨account, -, -, -, rfl⟩ := setEnabledEffect_eq_ok accepted
      rfl
  | setDefaultOutgoing handle => exact (setDefaultOutgoingEffect_eq_ok accepted).2.2.1
  | setCallManager handle => exact (setCallManagerEffect_eq_ok accepted).2.2.1

/-- With unique handles, the catalog of an effect is what the change makes of the one in
use. -/
theorem catalog_effectOf
    {change : Change}
    (unique : Accounts.Unique registry.catalog.accounts)
    (accepted : registry.effectOf device caller change = .ok effect) :
    effect.catalog = change.onCatalog registry.catalog := by
  have accounts : effect.catalog.accounts =
      (change.onEntries registry.catalog.entries).map Prod.snd := by
    rw [← entries_effectOf unique accepted, Catalog.map_snd_entries]
  have version := effectOf_version accepted
  have choices : effect.catalog.defaultOutgoing =
        (change.onCatalog registry.catalog).defaultOutgoing ∧
      effect.catalog.simCallManager =
        (change.onCatalog registry.catalog).simCallManager := by
    cases change with
    | setDefaultOutgoing handle =>
        rw [(setDefaultOutgoingEffect_eq_ok accepted).2.1]
        exact ⟨rfl, rfl⟩
    | setCallManager handle =>
        rw [(setCallManagerEffect_eq_ok accepted).2.1]
        exact ⟨rfl, rfl⟩
    | register account => exact choices_effectOf rfl accepted
    | unregister handle => exact choices_effectOf rfl accepted
    | clear package scope => exact choices_effectOf rfl accepted
    | setEnabled handle enabled => exact choices_effectOf rfl accepted
  cases made : effect.catalog with
  | mk defaultOutgoing simCallManager others current =>
      rw [made] at accounts version choices
      obtain ⟨rfl, rfl⟩ := choices
      obtain rfl := accounts
      obtain rfl := version
      rfl

end Registry

/-! ## Quiet listeners -/

/-- The operation leaves the catalog alone. -/
def Operation.leavesCatalog : Operation → Bool
  | .change _ => false
  | .restart => false
  | _ => true

/-- No reaction of the listener changes the catalog. -/
def Script.IsQuiet : Script Step → Prop
  | .silent => True
  | .reacts actions => ∀ event, ∀ step ∈ actions event, step.operation.leavesCatalog = true

/-- No listener changes the catalog. -/
def Scripts.AreQuiet (scripts : Scripts Step) : Prop :=
  ∀ script ∈ scripts, script.2.IsQuiet

/-- Actions for an event come from a script that reacts. -/
theorem Script.exists_of_actionsOf?
    {scripts : Scripts Step}
    {name : String}
    {event : Event}
    {actions : List Step}
    (reacts : actionsOf? scripts name event = some actions) :
    ∃ script ∈ scripts, ∃ reaction, script.2 = .reacts reaction ∧ reaction event = actions := by
  unfold actionsOf? at reacts
  cases found : scripts.find? (fun script => script.1 = name) with
  | none =>
      rw [found] at reacts
      exact absurd reacts (by simp)
  | some script =>
      refine ⟨script, List.mem_of_find?_eq_some found, ?_⟩
      rw [found] at reacts
      obtain ⟨listener, reaction⟩ := script
      cases reaction with
      | silent => exact absurd reacts (by simp)
      | reacts reaction => exact ⟨reaction, rfl, by simpa using reacts⟩

theorem Scripts.AreQuiet.actions
    {scripts : Scripts Step}
    (quiet : AreQuiet scripts)
    {name : String}
    {event : Event}
    {actions : List Step}
    (reacts : Script.actionsOf? scripts name event = some actions) :
    ∀ step ∈ actions, step.operation.leavesCatalog = true := by
  obtain ⟨script, member, reaction, same, rfl⟩ := Script.exists_of_actionsOf? reacts
  have quietScript := quiet script member
  rw [same] at quietScript
  exact quietScript event

namespace Delivery

variable {State Action : Type}

/-- The listeners that are told of an event, in order, each with the state in which it is
told. -/
def tellings
    (scripts : Scripts Action)
    (note : String → Event → State → State)
    (perform : Action → State → State × Bool)
    (event : Event) :
    List String → State → List (String × State)
  | [], _ => []
  | name :: rest, state =>
      (name, state) ::
        tellings scripts note perform event rest
          (react scripts note perform event state name)

theorem map_fst_tellings
    (scripts : Scripts Action)
    (note : String → Event → State → State)
    (perform : Action → State → State × Bool)
    (event : Event)
    (listeners : List String)
    (state : State) :
    (tellings scripts note perform event listeners state).map Prod.fst = listeners := by
  induction listeners generalizing state with
  | nil => rfl
  | cons name rest inductionHypothesis =>
      rw [tellings, List.map_cons, inductionHypothesis]

end Delivery

namespace Session

/-- Firing that tells nobody. -/
def tellNobody (_ : Scope) (_ : Event) (session : Session) : Session := session

/-- The line for an event that a listener hears. -/
def lineFor (caller : Scope) (name : String) (event : Event) (session : Session) : String :=
  name ++ ":" ++ event.name ++ ":" ++
    String.ofList (Text.naturalText (session.registry.allHandles session.device caller).length)

/-- The lines for the listeners that are told of an event; silent ones leave none. -/
def linesFor
    (scripts : Scripts Step)
    (caller : Scope)
    (event : Event)
    (told : List (String × Session)) :
    List String :=
  told.filterMap fun telling =>
    if (Script.actionsOf? scripts telling.1 event).isSome then
      some (lineFor caller telling.1 event telling.2)
    else none

/-- The listeners that are told of an event, each with the session in which it is told, when
reactions themselves fire nothing. -/
def tellings
    (scripts : Scripts Step)
    (caller : Scope)
    (event : Event)
    (listeners : List String)
    (session : Session) :
    List (String × Session) :=
  Delivery.tellings scripts (note caller) (reactWith tellNobody caller) event listeners session

/-- A change as it was carried out and announced.  `committed` is the session in which its
event is fired and the first listener is told; whatever firing does, it is done there, once and
for this event. -/
structure Announces
    (session : Session)
    (scripts : Scripts Step)
    (caller : Scope)
    (change : Change)
    (committed : Session)
    (lines : List String)
    (after : Session) :
    Prop where
  fires : ∀ fire : Event → Session → Session,
    ({ session with lines := [] }.change fire caller change).2 = fire change.event committed
  registry : committed.registry =
    { session.registry with catalog := change.onCatalog session.registry.catalog }
  file :
    committed.device.files.read session.registry.stateFile.parts =
        .ok (StateFile.encode session.device.directory committed.registry.catalog) ∨
      (StateFile.save? session.device.directory session.registry.stateFile
          committed.registry.catalog session.device.files = none ∧
        committed.device.files = session.device.files)
  begins : ∀ telling ∈ (tellings scripts caller change.event session.bus.listeners
      committed).head?, telling.2 = committed
  once : (tellings scripts caller change.event session.bus.listeners committed).map Prod.fst =
    session.bus.listeners
  keeps : ∀ telling ∈ tellings scripts caller change.event session.bus.listeners committed,
    telling.2.registry.catalog = committed.registry.catalog
  lines : lines = linesFor scripts caller change.event
    (tellings scripts caller change.event session.bus.listeners committed)
  catalog : after.registry.catalog = committed.registry.catalog

/-! ## Steps of quiet listeners -/

/-- The catalog and the lines are the same. -/
structure KeepsCatalog (before after : Session) : Prop where
  catalog : after.registry.catalog = before.registry.catalog
  lines : after.lines = before.lines

theorem KeepsCatalog.refl (session : Session) : KeepsCatalog session session :=
  ⟨rfl, rfl⟩

theorem KeepsCatalog.trans
    {first second third : Session}
    (one : KeepsCatalog first second)
    (two : KeepsCatalog second third) :
    KeepsCatalog first third :=
  ⟨two.catalog.trans one.catalog, two.lines.trans one.lines⟩

theorem keepsCatalog_adjust (session : Session) (adjustment : Adjustment) :
    KeepsCatalog session (session.adjust adjustment) := by
  cases adjustment <;> exact ⟨rfl, rfl⟩

theorem keepsCatalog_adjustAll (session : Session) (adjustments : List Adjustment) :
    KeepsCatalog session (adjustments.foldl adjust session) := by
  induction adjustments generalizing session with
  | nil => exact .refl session
  | cons adjustment rest inductionHypothesis =>
      exact (keepsCatalog_adjust session adjustment).trans (inductionHypothesis _)

theorem keepsCatalog_writeFile (session : Session) (content : List UInt8) :
    KeepsCatalog session (session.writeFile content).2 := by
  unfold writeFile
  cases session.device.files.write? content session.registry.stateFile.parts <;>
    exact ⟨rfl, rfl⟩

section Quiet

variable {scripts : Scripts Step} {caller : Scope} {event : Event}

/-- An operation that leaves the catalog alone fires nothing, whatever firing would do. -/
theorem perform_eq_of_leavesCatalog
    (fire : Scope → Event → Session → Session)
    (session : Session)
    {step : Step}
    (leaves : step.operation.leavesCatalog = true) :
    session.perform fire caller step = session.perform tellNobody caller step := by
  obtain ⟨named, operation⟩ := step
  cases operation with
  | change change => exact absurd leaves Bool.false_ne_true
  | restart => exact absurd leaves Bool.false_ne_true
  | _ => rfl

theorem keepsCatalog_perform
    (caller : Scope)
    (session : Session)
    {step : Step}
    (leaves : step.operation.leavesCatalog = true) :
    KeepsCatalog session (session.perform tellNobody caller step).2 := by
  obtain ⟨named, operation⟩ := step
  cases operation with
  | ask inquiry => exact .refl session
  | adjust adjustments => exact keepsCatalog_adjustAll session adjustments
  | change change => exact absurd leaves Bool.false_ne_true
  | writeFile content => exact keepsCatalog_writeFile session content
  | restart => exact absurd leaves Bool.false_ne_true
  | fail => exact .refl session

/-- The actions of a quiet listener fire nothing and keep the catalog. -/
theorem runActions_of_quiet
    (fire : Scope → Event → Session → Session)
    (caller : Scope)
    {actions : List Step}
    (quiet : ∀ step ∈ actions, step.operation.leavesCatalog = true)
    (session : Session) :
    Delivery.runActions (reactWith fire caller) actions session =
        Delivery.runActions (reactWith tellNobody caller) actions session ∧
      KeepsCatalog session
        (Delivery.runActions (reactWith tellNobody caller) actions session) := by
  induction actions generalizing session with
  | nil => exact ⟨rfl, .refl session⟩
  | cons step rest inductionHypothesis =>
      have leaves := quiet step List.mem_cons_self
      have kept := keepsCatalog_perform caller session leaves
      have same : reactWith fire caller step session =
          reactWith tellNobody caller step session := by
        rw [reactWith, reactWith, perform_eq_of_leavesCatalog fire session leaves]
      obtain ⟨sameRest, keptRest⟩ := inductionHypothesis
        (fun other member => quiet other (List.mem_cons_of_mem step member))
        (reactWith tellNobody caller step session).1
      unfold Delivery.runActions
      rw [same]
      simp only
      by_cases succeeded : (reactWith tellNobody caller step session).2 = true
      · rw [if_pos succeeded, if_pos succeeded]
        exact ⟨sameRest, kept.trans keptRest⟩
      · rw [if_neg succeeded, if_neg succeeded]
        exact ⟨rfl, kept⟩

/-- A quiet listener that is told of an event leaves its line, unless it is silent, and nothing
else that would be heard of. -/
theorem react_of_quiet
    (fire : Scope → Event → Session → Session)
    (caller : Scope)
    (event : Event)
    (quiet : Scripts.AreQuiet scripts)
    (session : Session)
    (name : String) :
    let reacted :=
      Delivery.react scripts (note caller) (reactWith tellNobody caller) event session name
    Delivery.react scripts (note caller) (reactWith fire caller) event session name = reacted ∧
      reacted.registry.catalog = session.registry.catalog ∧
      reacted.lines = session.lines ++ linesFor scripts caller event [(name, session)] := by
  unfold Delivery.react linesFor
  cases reacts : Script.actionsOf? scripts name event with
  | none => simp [reacts]
  | some actions =>
      have noted : (note caller name event session).lines =
          session.lines ++ [lineFor caller name event session] := rfl
      obtain ⟨same, kept⟩ := runActions_of_quiet fire caller (quiet.actions reacts)
        (note caller name event session)
      refine ⟨same, kept.catalog, ?_⟩
      simp only
      rw [kept.lines, noted]
      simp [reacts]

theorem linesFor_cons (telling : String × Session) (told : List (String × Session)) :
    linesFor scripts caller event (telling :: told) =
      linesFor scripts caller event [telling] ++ linesFor scripts caller event told := by
  unfold linesFor
  rw [← List.filterMap_append]
  rfl

/-- Quiet listeners are told once for each entry and in the same catalog, and nothing else is
announced meanwhile. -/
theorem toAll_of_quiet
    (fire : Scope → Event → Session → Session)
    (quiet : Scripts.AreQuiet scripts)
    (listeners : List String)
    (session : Session) :
    let told := tellings scripts caller event listeners session
    let after :=
      Delivery.toAll scripts (note caller) (reactWith fire caller) event listeners session
    (∀ telling ∈ told, telling.2.registry.catalog = session.registry.catalog) ∧
      after.registry.catalog = session.registry.catalog ∧
      after.lines = session.lines ++ linesFor scripts caller event told := by
  induction listeners generalizing session with
  | nil => simp [tellings, Delivery.tellings, Delivery.toAll, linesFor]
  | cons name rest inductionHypothesis =>
      obtain ⟨same, keptCatalog, addedLine⟩ :=
        react_of_quiet fire caller event quiet session name
      obtain ⟨told, catalog, lines⟩ := inductionHypothesis
        (Delivery.react scripts (note caller) (reactWith tellNobody caller) event session name)
      rw [keptCatalog] at told catalog
      rw [addedLine, List.append_assoc] at lines
      unfold Delivery.toAll at catalog lines ⊢
      unfold tellings Delivery.tellings
      simp only [List.foldl_cons, same]
      refine ⟨?_, catalog, ?_⟩
      · intro telling member
        rcases List.mem_cons.mp member with rfl | later
        · rfl
        · exact told telling later
      · rw [linesFor_cons]
        exact lines

/-- Firing an event at quiet listeners tells those that are on the bus. -/
theorem fire_of_quiet
    (caller : Scope)
    (event : Event)
    (quiet : Scripts.AreQuiet scripts)
    (session : Session) :
    let told := tellings scripts caller event session.bus.listeners session
    let after := fire scripts Delivery.deepestNesting caller event session
    (∀ telling ∈ told, telling.2.registry.catalog = session.registry.catalog) ∧
      after.registry.catalog = session.registry.catalog ∧
      after.lines = session.lines ++ linesFor scripts caller event told := by
  have nesting : Delivery.deepestNesting = 249 + 1 := rfl
  rw [nesting]
  exact toAll_of_quiet (fire scripts 249) quiet session.bus.listeners session

end Quiet

/-! ## Changes -/

/-- The file of a session after a change holds the new catalog, unless saving failed. -/
theorem files_carriedOut
    {session : Session}
    {caller : Scope}
    {change : Change}
    {effect : Effect}
    (accepted : session.registry.effectOf session.device caller change = .ok effect) :
    (session.carriedOut caller change).device.files.read session.registry.stateFile.parts =
        .ok (StateFile.encode session.device.directory effect.catalog) ∨
      (StateFile.save? session.device.directory session.registry.stateFile effect.catalog
          session.device.files = none ∧
        (session.carriedOut caller change).device.files = session.device.files) := by
  have written := (Registry.commit_snd session.registry session.device effect).2.2
  rw [carriedOut_of_accepted accepted]
  show (session.registry.commit session.device effect).2.files.read _ = _ ∨
    _ ∧ (session.registry.commit session.device effect).2.files = _
  rw [written]
  cases saved : StateFile.save? session.device.directory session.registry.stateFile
      effect.catalog session.device.files with
  | none => exact .inr ⟨rfl, rfl⟩
  | some files => exact .inl (StateFile.read_of_save?_eq_some saved)

/-- A change that was refused: the session is as it was, and nothing is fired. -/
structure IsUntouched
    (session : Session)
    (caller : Scope)
    (change : Change)
    (lines : List String)
    (after : Session) :
    Prop where
  unchanged : after = { session with lines := [] }
  lines : lines = []
  fires : ∀ fire, (session.change fire caller change).2 = session

/-- A change that was carried out and could not be written out: the new catalog is in use, the files
are as they were, and nothing is fired. -/
structure IsHalfDone
    (session : Session)
    (caller : Scope)
    (change : Change)
    (lines : List String)
    (after : Session) :
    Prop where
  unwritable : StateFile.isWritable session.device.directory
    (change.onCatalog session.registry.catalog) = false
  registry : after.registry =
    { session.registry with catalog := change.onCatalog session.registry.catalog }
  files : after.device.files = session.device.files
  lines : lines = []
  fires : ∀ fire,
    (session.change fire caller change).2 = { after with lines := session.lines }

/-- A catalog that cannot be written out is not saved. -/
theorem files_carriedOut_of_unwritable
    {session : Session}
    {caller : Scope}
    {change : Change}
    {effect : Effect}
    (accepted : session.registry.effectOf session.device caller change = .ok effect)
    (unwritable : StateFile.isWritable session.device.directory effect.catalog = false) :
    (session.carriedOut caller change).device.files = session.device.files := by
  rw [carriedOut_of_accepted accepted,
    (Registry.commit_snd session.registry session.device effect).2.2,
    StateFile.save?_of_unwritable unwritable]
  rfl

section Ends

variable {session : Session} {caller : Scope} {change : Change}

theorem isUntouched_of_refused
    {refusal : Refusal}
    (refused : session.registry.effectOf session.device caller change = .error refusal)
    (fire : Event → Session → Session) :
    let result := ({ session with lines := [] } : Session).change fire caller change
    result.1 = .ofRefusal refusal ∧
      session.IsUntouched caller change result.2.lines result.2 := by
  have changed (lines : List String) (fire : Event → Session → Session) :
      ({ session with lines := lines } : Session).change fire caller change =
        (.ofRefusal refusal, { session with lines := lines }) := by
    let state : Session := { session with lines := lines }
    have decided : state.registry.effectOf state.device caller change = .error refusal := refused
    exact change_of_refused decided fire
  dsimp only
  rw [changed [] fire]
  exact ⟨rfl, rfl, rfl, fun fire => congrArg Prod.snd (changed session.lines fire)⟩

/-- The log counts for nothing in a change. -/
theorem carriedOut_withLines (session : Session) (lines : List String) :
    ({ session with lines := lines } : Session).carriedOut caller change =
      { session.carriedOut caller change with lines := lines } := by
  unfold carriedOut
  dsimp only
  cases session.registry.effectOf session.device caller change <;> rfl

theorem isHalfDone_of_unwritable
    (unique : Accounts.Unique session.registry.catalog.accounts)
    {effect : Effect}
    (accepted : session.registry.effectOf session.device caller change = .ok effect)
    (unwritable : StateFile.isWritable session.device.directory effect.catalog = false)
    (fire : Event → Session → Session) :
    let result := ({ session with lines := [] } : Session).change fire caller change
    result.1 = .stopped .longInteger ∧
      session.IsHalfDone caller change result.2.lines result.2 := by
  have changed (lines : List String) (fire : Event → Session → Session) :
      ({ session with lines := lines } : Session).change fire caller change =
        (.stopped .longInteger, { session.carriedOut caller change with lines := lines }) := by
    let state : Session := { session with lines := lines }
    have decided : state.registry.effectOf state.device caller change = .ok effect := accepted
    rw [← carriedOut_withLines, change_of_accepted decided fire]
    exact if_neg (Bool.eq_false_iff.mp unwritable)
  have catalog := Registry.catalog_effectOf unique accepted
  dsimp only
  rw [changed [] fire]
  refine ⟨rfl, ?_⟩
  exact {
    unwritable := by rw [← catalog, unwritable]
    registry := by
      rw [carriedOut_of_accepted accepted, ← catalog]
      rfl
    files := files_carriedOut_of_unwritable accepted unwritable
    lines := rfl
    fires := fun fire => congrArg Prod.snd (changed session.lines fire) }

theorem announces_of_writable
    (unique : Accounts.Unique session.registry.catalog.accounts)
    {scripts : Scripts Step}
    (quiet : Scripts.AreQuiet scripts)
    {effect : Effect}
    (accepted : session.registry.effectOf session.device caller change = .ok effect)
    (writable : StateFile.isWritable session.device.directory effect.catalog = true) :
    let cleared : Session := { session with lines := [] }
    let result := cleared.change (fire scripts Delivery.deepestNesting caller) caller change
    result.1 = .ofSuccess change ∧
      session.Announces scripts caller change (cleared.carriedOut caller change)
        result.2.lines result.2 := by
  intro cleared result
  have decided : cleared.registry.effectOf cleared.device caller change = .ok effect := accepted
  have changed (fire : Event → Session → Session) :
      cleared.change fire caller change =
        (.ofSuccess change, fire change.event (cleared.carriedOut caller change)) := by
    rw [change_of_accepted decided, Registry.event_effectOf decided]
    exact if_pos writable
  have ends : result = _ := changed (fire scripts Delivery.deepestNesting caller)
  have catalog := Registry.catalog_effectOf unique decided
  have file := files_carriedOut decided
  have carried := carriedOut_of_accepted decided
  have committedRegistry : (cleared.carriedOut caller change).registry =
      { session.registry with catalog := change.onCatalog session.registry.catalog } := by
    rw [carried, ← catalog]
    rfl
  have noLines : (cleared.carriedOut caller change).lines = [] := by
    rw [carried]
  have sameBus : (cleared.carriedOut caller change).bus = session.bus := by
    rw [carried]
  obtain ⟨keeps, unchanged, lines⟩ :=
    fire_of_quiet caller change.event quiet (cleared.carriedOut caller change)
  rw [sameBus] at keeps lines
  rw [ends]
  refine ⟨rfl, ?_⟩
  exact {
    fires := fun fire => by rw [changed fire]
    registry := committedRegistry
    file := by
      rw [committedRegistry]
      rw [catalog] at file
      exact file
    begins := by
      intro telling first
      cases listeners : session.bus.listeners with
      | nil =>
          rw [listeners] at first
          exact absurd first (by simp [tellings, Delivery.tellings])
      | cons name rest =>
          rw [listeners] at first
          obtain rfl := Option.some.inj first
          rfl
    once := Delivery.map_fst_tellings _ _ _ _ _ _
    keeps := keeps
    lines := by rw [lines, noLines, List.nil_append]
    catalog := unchanged }

end Ends

/-- A change of a session with quiet listeners is all or nothing, unless an integer is in its way
that cannot be written.

If it is denied or rejected, the session is as it was and nothing is fired.  If it is applied, the
new catalog is in use and saved, unless saving failed, when the first listener is told; each entry
of the bus is told once of the event of the change and of no other.  There is a third end: the
reason of a rejection cannot be put into words, and then nothing has happened either, or the new
catalog cannot be written out, and then it is in use without being saved or told. -/
theorem change_isAllOrNothing
    {session : Session}
    (reached : Reachable session)
    {scripts : Scripts Step}
    (quiet : Scripts.AreQuiet scripts)
    (caller : Option Scope)
    (change : Change) :
    let result := session.run scripts ⟨caller, .change change⟩
    let asker := caller.getD Scope.owner
    (result.1.isRefusal = true →
        session.IsUntouched asker change result.2.1 result.2.2) ∧
      (result.1 = .ofSuccess change →
        ∃ committed, session.Announces scripts asker change committed result.2.1 result.2.2) ∧
      (result.1.isRefusal = false → result.1 ≠ .ofSuccess change →
        result.1 = .stopped .longInteger ∧
          ((∃ reason,
              session.registry.effectOf session.device asker change =
                  .error (.rejected reason) ∧
                reason.isWritable = false ∧
                session.IsUntouched asker change result.2.1 result.2.2) ∨
            session.IsHalfDone asker change result.2.1 result.2.2)) := by
  let cleared : Session := { session with lines := [] }
  let asker := caller.getD Scope.owner
  let changed := cleared.change (fire scripts Delivery.deepestNesting asker) asker change
  show (changed.1.isRefusal = true →
      session.IsUntouched asker change changed.2.lines changed.2) ∧
    (changed.1 = .ofSuccess change →
      ∃ committed, session.Announces scripts asker change committed changed.2.lines changed.2) ∧
    (changed.1.isRefusal = false → changed.1 ≠ .ofSuccess change →
      changed.1 = .stopped .longInteger ∧
        ((∃ reason,
            session.registry.effectOf session.device asker change = .error (.rejected reason) ∧
              reason.isWritable = false ∧
              session.IsUntouched asker change changed.2.lines changed.2) ∨
          session.IsHalfDone asker change changed.2.lines changed.2))
  cases decided : session.registry.effectOf session.device asker change with
  | error refusal =>
      obtain ⟨answers, untouched⟩ :=
        isUntouched_of_refused decided (fire scripts Delivery.deepestNesting asker)
      refine ⟨fun _ => untouched, fun applied => ?_, fun unrefused _ => ?_⟩
      · exact absurd (answers.symm.trans applied) (Answer.ofRefusal_ne_ofSuccess refusal change)
      · obtain ⟨reason, rfl, unwritable⟩ := Answer.rejected_of_unrefused (answers ▸ unrefused)
        refine ⟨answers.trans ?_, .inl ⟨reason, rfl, unwritable, untouched⟩⟩
        rw [Answer.ofRefusal, unwritable]
        rfl
  | ok effect =>
      by_cases writable : StateFile.isWritable session.device.directory effect.catalog = true
      · obtain ⟨answers, announces⟩ :=
          announces_of_writable reached.inUse.unique quiet decided writable
        refine ⟨fun refused => ?_, fun _ => ⟨_, announces⟩, fun _ other => ?_⟩
        · rw [answers, Answer.isRefusal_ofSuccess] at refused
          exact absurd refused Bool.false_ne_true
        · exact absurd answers other
      · obtain ⟨stops, halfDone⟩ :=
          isHalfDone_of_unwritable reached.inUse.unique decided (Bool.eq_false_iff.mpr writable)
            (fire scripts Delivery.deepestNesting asker)
        refine ⟨fun refused => ?_, fun applied => ?_, fun _ _ => ⟨stops, .inr halfDone⟩⟩
        · rw [stops] at refused
          exact absurd refused Bool.false_ne_true
        · exact absurd (stops.symm.trans applied) (Answer.stopped_ne_ofSuccess _ change)

/-! ## A sample -/

/-- A listener that asks for all accounts when it hears an event, and then fails; and a silent
one. -/
def sampleScripts : Scripts Step :=
  [("log", .reacts fun _ => [⟨none, .ask .allAccounts⟩, ⟨none, .fail⟩]), ("idle", .silent)]

theorem sampleScripts_areQuiet : Scripts.AreQuiet sampleScripts := by
  intro script member
  rcases List.mem_cons.mp member with rfl | member
  · intro event step isAction
    rcases List.mem_cons.mp isAction with rfl | isAction
    · rfl
    · obtain rfl := List.mem_singleton.mp isAction
      rfl
  · obtain rfl := List.mem_singleton.mp member
    trivial

/-- A session in which three entries of the bus listen. -/
def listenedSession : Session :=
  sampleSession.makes
    [.adjust (.addListener "log"), .adjust (.addListener "idle"), .adjust (.addListener "log")]

/-- A listener that is on the bus twice hears twice of a new account; it is told in a catalog
that holds the account. -/
theorem register_isAllOrNothing :
    let change := Change.register (sampleAccount Scope.owner)
    let result := listenedSession.run sampleScripts ⟨none, .change change⟩
    result.1 = .ofSuccess change ∧
      result.2.1 = ["log:accounts:0", "log:accounts:0"] ∧
      (change.onCatalog listenedSession.registry.catalog).accounts =
        [sampleAccount Scope.owner] ∧
      ∃ committed, listenedSession.Announces sampleScripts Scope.owner change committed
        result.2.1 result.2.2 := by
  have reached : Reachable listenedSession := (Reachable.start start_sampleDevice).leads ⟨_, rfl⟩
  have applied : (listenedSession.run sampleScripts
      ⟨none, .change (.register (sampleAccount Scope.owner))⟩).1 = .nothing := by
    decide +kernel
  refine ⟨applied, by decide +kernel, by decide +kernel, ?_⟩
  exact (change_isAllOrNothing reached sampleScripts_areQuiet none
    (.register (sampleAccount Scope.owner))).2.1 applied

/-- An account whose capabilities take 4301 digits. -/
def boundlessAccount : Account :=
  { sampleAccount Scope.owner with capabilities := Number.tenTo 4300 }

/-- Such an account is in use once it has been registered, but there is no file, and nobody hears of
it. -/
theorem registerBoundless_isHalfDone :
    let result := listenedSession.run sampleScripts ⟨none, .change (.register boundlessAccount)⟩
    result.1 = .stopped .longInteger ∧
      result.2.1 = [] ∧
      result.2.2.registry.catalog.accounts = [boundlessAccount] ∧
      result.2.2.stateContent? = none := by
  intro result
  exact ⟨by decide +kernel, by decide +kernel, by decide +kernel, by decide +kernel⟩

end Session

end PhoneAccounts

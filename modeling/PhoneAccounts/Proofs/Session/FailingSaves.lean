import PhoneAccounts.Proofs.Session.Announcement
import PhoneAccounts.Proofs.Session.Interleaving
import PhoneAccounts.Proofs.Session.Stored

/-!
Contract: what a save that fails can be noticed by.

In a trial any save may be made to fail, the one at the start included.  The session of a trial is
the session that runs, step by step and function by function; only where that one saves, the trial
first asks whether the save fails, and it keeps a record of what it tried to save.  A catalog that
cannot be written out never gets as far as a save that could fail, there as here.

Whichever saves fail, the registry, its listeners and everything on the device but the files come
out the same, and so does every answer that does not tell of the files.  The state file holds what
was saved last.

Owns: `Trial`, that a trial without failures is the session that runs, and what failures change.

Does not own: what stands in the way of a save on the device (see
`PhoneAccounts.Proofs.StateFile.Saving`).
-/

namespace PhoneAccounts

/-! ## Operations apart from the file -/

/-- The inquiry tells what stands in the files. -/
def Inquiry.isAboutFiles : Inquiry → Bool
  | .stateFile => true
  | .files => true
  | _ => false

/-- The operation neither starts the registry again nor touches the state file from outside. -/
def Operation.leavesFile : Operation → Bool
  | .adjust adjustments => adjustments.all Adjustment.leavesFile
  | .writeFile _ => false
  | .restart => false
  | _ => true

/-- The operation asks what stands in the files. -/
def Operation.asksFiles : Operation → Bool
  | .ask inquiry => inquiry.isAboutFiles
  | _ => false

/-- No reaction of a listener starts the registry again or touches the state file. -/
def Scripts.LeaveFile (scripts : Scripts Step) : Prop :=
  ∀ name event actions, Script.actionsOf? scripts name event = some actions →
    ∀ step ∈ actions, step.operation.leavesFile = true

/-! ## Trials -/

/-- A catalog that was to be saved, with the scopes that were known then. -/
structure Attempt where
  directory : ScopeDirectory
  catalog : Catalog
  succeeded : Bool

/-- What was to be saved, whether it was or not. -/
def Attempt.tried (attempt : Attempt) : ScopeDirectory × Catalog :=
  (attempt.directory, attempt.catalog)

/-- A session, and a record of all that it tried to save, the last at the end. -/
structure Trial where
  session : Session
  attempts : List Attempt

namespace Session

/-- The session without the files. -/
def memory (session : Session) : Session :=
  session.withFiles .emptyDirectory

/-- What stands at the place where the registry keeps its catalog. -/
def stored (session : Session) : Except ReadFault (List UInt8) :=
  session.device.files.read session.registry.stateFile.parts

/-- The session after some steps. -/
def runs (session : Session) (scripts : Scripts Step) (steps : List Step) : Session :=
  steps.foldl (fun session step => (session.run scripts step).2.2) session

section

variable {left right : Session}

/-- Changes are decided without the files. -/
theorem effectOf_eq_of_memory
    (same : left.memory = right.memory)
    (caller : Scope)
    (change : Change) :
    left.registry.effectOf left.device caller change =
      right.registry.effectOf right.device caller change := by
  have decide (session : Session) :
      session.memory.registry.effectOf session.memory.device caller change =
        session.registry.effectOf session.device caller change := by
    cases change <;> rfl
  rw [← decide left, same, decide right]

theorem answer_eq_of_memory
    (same : left.memory = right.memory)
    (caller : Scope)
    {inquiry : Inquiry}
    (elsewhere : inquiry.isAboutFiles = false) :
    left.answer caller inquiry = right.answer caller inquiry := by
  have apart (session : Session) :
      session.memory.answer caller inquiry = session.answer caller inquiry := by
    cases inquiry <;> first | rfl | exact absurd elsewhere (by decide)
  rw [← apart left, same, apart right]

/-- An inquiry is always answered. -/
theorem isFailure_answer (session : Session) (caller : Scope) (inquiry : Inquiry) :
    (session.answer caller inquiry).isFailure = false := by
  cases inquiry <;> rfl

theorem memory_note (caller : Scope) (name : String) (event : Event) (session : Session) :
    (session.note caller name event).memory = session.memory.note caller name event :=
  rfl

theorem memory_adjust
    {adjustment : Adjustment}
    (leaves : adjustment.leavesFile = true)
    (session : Session) :
    (session.adjust adjustment).memory = session.memory.adjust adjustment := by
  cases adjustment <;> first | rfl | exact absurd leaves (by decide)

theorem memory_adjustAll
    {adjustments : List Adjustment}
    (leave : adjustments.all Adjustment.leavesFile = true)
    (session : Session) :
    (adjustments.foldl adjust session).memory = adjustments.foldl adjust session.memory := by
  induction adjustments generalizing session with
  | nil => rfl
  | cons adjustment rest inductionHypothesis =>
      rw [List.all_cons, Bool.and_eq_true] at leave
      rw [List.foldl_cons, List.foldl_cons, inductionHypothesis leave.2, memory_adjust leave.1]

/-- Adjustments that leave the file alone leave its place as well. -/
theorem file_adjustAll
    {adjustments : List Adjustment}
    (leave : adjustments.all Adjustment.leavesFile = true)
    (session : Session) :
    (adjustments.foldl adjust session).device.files = session.device.files ∧
      (adjustments.foldl adjust session).registry.stateFile = session.registry.stateFile := by
  induction adjustments generalizing session with
  | nil => exact ⟨rfl, rfl⟩
  | cons adjustment rest inductionHypothesis =>
      rw [List.all_cons, Bool.and_eq_true] at leave
      have first : (session.adjust adjustment).device.files = session.device.files ∧
          (session.adjust adjustment).registry.stateFile = session.registry.stateFile := by
        cases adjustment <;>
          first | exact ⟨rfl, rfl⟩ | exact absurd leave.1 (by decide)
      rw [List.foldl_cons, ← first.1, ← first.2]
      exact inductionHypothesis leave.2 (session.adjust adjustment)

end

end Session

namespace Trial

section

variable (fails : Nat → Bool)

/-- The files after an attempt to save the catalog in use; none if it fails, because it is made to
or because it cannot succeed. -/
def saved? (trial : Trial) : Option Entry :=
  let session := trial.session
  if fails trial.attempts.length then none
  else
    StateFile.save? session.device.directory session.registry.stateFile session.registry.catalog
      session.device.files

/-- Tries to save the catalog in use.  If that fails, the files stay as they are. -/
def trySave (trial : Trial) : Trial :=
  let session := trial.session
  let attempt := Attempt.mk session.device.directory session.registry.catalog
  match trial.saved? fails with
  | some files => ⟨session.withFiles files, trial.attempts ++ [attempt true]⟩
  | none => ⟨session, trial.attempts ++ [attempt false]⟩

/-- The trial once an effect is in use and not yet saved. -/
def adopting (trial : Trial) (effect : Effect) : Trial :=
  let session := trial.session
  { trial with
    session :=
      { session with
        registry := { session.registry with catalog := effect.catalog }
        device := Registry.applyVoice session.device effect.voice } }

/-- Tries to save the catalog in use, fires an event and gives an answer.  What cannot be written
out ends the change before the save begins. -/
def announce
    (trial : Trial)
    (fire : Event → Trial → Trial)
    (event : Event)
    (answer : Answer) :
    Answer × Trial :=
  if trial.session.registry.isWritable trial.session.device then
    (answer, fire event (trial.trySave fails))
  else (.stopped .longInteger, trial)

/-- Carries out a change and fires its event, or says why it is refused. -/
def change
    (trial : Trial)
    (fire : Event → Trial → Trial)
    (caller : Scope)
    (change : Change) :
    Answer × Trial :=
  match trial.session.registry.effectOf trial.session.device caller change with
  | .error refusal => (.ofRefusal refusal, trial)
  | .ok effect => (trial.adopting effect).announce fails fire effect.event (.ofSuccess change)

/-- Makes a step on behalf of a caller, given how an event is fired.  Only a change saves. -/
def perform
    (trial : Trial)
    (fire : Scope → Event → Trial → Trial)
    (caller : Scope)
    (step : Step) :
    Answer × Trial :=
  match step.operation with
  | .change change =>
      let asker := step.caller.getD caller
      trial.change fails (fire asker) asker change
  | _ =>
      let (answer, session) := trial.session.perform Session.tellNobody caller step
      (answer, { trial with session := session })

/-- Notes that a listener hears an event. -/
def note (caller : Scope) (name : String) (event : Event) (trial : Trial) : Trial :=
  { trial with session := trial.session.note caller name event }

def reactWith
    (fire : Scope → Event → Trial → Trial)
    (caller : Scope)
    (step : Step)
    (trial : Trial) :
    Trial × Bool :=
  let (answer, trial) := trial.perform fails fire caller step
  (trial, !answer.isFailure)

/-- Fires an event on behalf of a caller. -/
def fire (scripts : Scripts Step) : (depth : Nat) → Scope → Event → Trial → Trial
  | 0, _, _, trial => trial
  | depth + 1, caller, event, trial =>
      Delivery.toAll scripts (note caller) (reactWith fails (fire scripts depth) caller) event
        trial.session.bus.listeners trial

/-- Makes a step of its own: its answer, the lines that it added, and the trial after it. -/
def run (trial : Trial) (scripts : Scripts Step) (step : Step) : Answer × List String × Trial :=
  let (answer, trial) :=
    perform fails { trial with session := { trial.session with lines := [] } }
      (fire fails scripts Delivery.deepestNesting) Scope.owner step
  (answer, trial.session.lines, trial)

/-- The trial after some steps. -/
def runs (trial : Trial) (scripts : Scripts Step) (steps : List Step) : Trial :=
  steps.foldl (fun trial step => (trial.run fails scripts step).2.2) trial

/-- Begins a trial of a process that runs in a scope. -/
def start (device : Device) (processScope : Scope) : Except StateFile.Stop Trial := do
  let loaded ← StateFile.load (Registry.startReader device processScope)
    device.settings.stateFile device.files
  let (catalog, mustSave) := Startup.ofLoaded device.directory loaded
  let registry : Registry :=
    ⟨catalog, processScope, processScope, Registry.upgradesOf device.settings,
      device.settings.stateFile⟩
  let trial : Trial := ⟨⟨device, registry, .empty, []⟩, []⟩
  if !mustSave then .ok trial
  else if registry.isWritable device then .ok (trial.trySave fails)
  else .error .longInteger

end

/-! ## Trials without failures -/

/-- No save is made to fail. -/
def never (_ : Nat) : Bool := false

theorem session_trySave_never (trial : Trial) :
    (trial.trySave never).session =
      { trial.session with
        device := trial.session.registry.save trial.session.device } := by
  have saved : trial.saved? never =
      StateFile.save? trial.session.device.directory trial.session.registry.stateFile
        trial.session.registry.catalog trial.session.device.files := rfl
  rw [Registry.save, StateFile.save_fst_eq_getD, ← saved, trySave]
  cases trial.saved? never <;> rfl

section Never

variable {scripts : Scripts Step}

theorem announce_never
    {fireTrial : Event → Trial → Trial}
    {fireSession : Event → Session → Session}
    (fires : ∀ event trial,
      (fireTrial event trial).session = fireSession event trial.session)
    (trial : Trial)
    (event : Event)
    (answer : Answer) :
    let saved : Session :=
      { trial.session with device := trial.session.registry.save trial.session.device }
    (trial.announce never fireTrial event answer).1 =
        (saved.announce fireSession event answer).1 ∧
      (trial.announce never fireTrial event answer).2.session =
        (saved.announce fireSession event answer).2 := by
  intro saved
  -- Saving changes neither the catalog nor the scopes, so both ask the same.
  have asked : saved.registry.isWritable saved.device =
      trial.session.registry.isWritable trial.session.device := rfl
  unfold Trial.announce Session.announce
  rw [asked]
  by_cases writable : trial.session.registry.isWritable trial.session.device = true
  · rw [if_pos writable, if_pos writable]
    exact ⟨rfl, (fires event _).trans (congrArg (fireSession event) (session_trySave_never trial))⟩
  · have unsaved : saved = trial.session := by
      dsimp only [saved]
      rw [Registry.save_of_unwritable (Bool.eq_false_iff.mpr writable)]
    rw [if_neg writable, if_neg writable, unsaved]
    exact ⟨rfl, rfl⟩

theorem change_never
    {fireTrial : Event → Trial → Trial}
    {fireSession : Event → Session → Session}
    (fires : ∀ event trial,
      (fireTrial event trial).session = fireSession event trial.session)
    (trial : Trial)
    (caller : Scope)
    (change : Change) :
    (trial.change never fireTrial caller change).1 =
        (trial.session.change fireSession caller change).1 ∧
      (trial.change never fireTrial caller change).2.session =
        (trial.session.change fireSession caller change).2 := by
  unfold Trial.change Session.change
  cases trial.session.registry.effectOf trial.session.device caller change with
  | error refusal => exact ⟨rfl, rfl⟩
  | ok effect => exact announce_never fires (trial.adopting effect) effect.event (.ofSuccess change)

theorem perform_never
    {fireTrial : Scope → Event → Trial → Trial}
    {fireSession : Scope → Event → Session → Session}
    (fires : ∀ caller event trial,
      (fireTrial caller event trial).session = fireSession caller event trial.session)
    (trial : Trial)
    (caller : Scope)
    (step : Step) :
    (trial.perform never fireTrial caller step).1 =
        (trial.session.perform fireSession caller step).1 ∧
      (trial.perform never fireTrial caller step).2.session =
        (trial.session.perform fireSession caller step).2 := by
  obtain ⟨named, operation⟩ := step
  cases operation with
  | change change => exact change_never (fires (named.getD caller)) trial (named.getD caller) change
  | _ => exact ⟨rfl, rfl⟩

theorem fire_never
    (depth : Nat)
    (caller : Scope)
    (event : Event)
    (trial : Trial) :
    (fire never scripts depth caller event trial).session =
      Session.fire scripts depth caller event trial.session := by
  induction depth generalizing caller event trial with
  | zero => rfl
  | succ depth inductionHypothesis =>
      apply Session.toAll_relates fun (trial : Trial) session => trial.session = session
      · rintro name trial _ rfl
        rfl
      · rintro name actions - step - trial _ rfl
        obtain ⟨answer, session⟩ := perform_never inductionHypothesis trial caller step
        exact ⟨session, congrArg (fun (answer : Answer) => !answer.isFailure) answer⟩
      · rfl

/-- A step of a trial without failures is the step that runs. -/
theorem run_never (trial : Trial) (step : Step) :
    (trial.run never scripts step).1 = (trial.session.run scripts step).1 ∧
      (trial.run never scripts step).2.1 = (trial.session.run scripts step).2.1 ∧
      (trial.run never scripts step).2.2.session = (trial.session.run scripts step).2.2 := by
  obtain ⟨answer, session⟩ := perform_never (fire_never Delivery.deepestNesting)
    { trial with session := { trial.session with lines := [] } } Scope.owner step
  exact ⟨answer, congrArg Session.lines session, session⟩

theorem runs_never (steps : List Step) (trial : Trial) :
    (trial.runs never scripts steps).session = trial.session.runs scripts steps := by
  induction steps generalizing trial with
  | nil => rfl
  | cons step rest inductionHypothesis =>
      show ((trial.run never scripts step).2.2.runs never scripts rest).session =
        (trial.session.run scripts step).2.2.runs scripts rest
      rw [inductionHypothesis, (run_never trial step).2.2]

end Never

/-! ## Trials with different failures -/

/-- Two trials differ at most in the files, and have tried to save the same. -/
structure Alike (left right : Trial) : Prop where
  memory : left.session.memory = right.session.memory
  tried : left.attempts.map Attempt.tried = right.attempts.map Attempt.tried

section Alike

variable {failsLeft failsRight : Nat → Bool} {scripts : Scripts Step} {left right : Trial}

/-- An attempt changes nothing but the files. -/
theorem memory_trySave (fails : Nat → Bool) (trial : Trial) :
    (trial.trySave fails).session.memory = trial.session.memory := by
  unfold Trial.trySave
  cases trial.saved? fails <;> rfl

theorem tried_trySave (fails : Nat → Bool) (trial : Trial) :
    (trial.trySave fails).attempts.map Attempt.tried =
      trial.attempts.map Attempt.tried ++
        [(trial.session.memory.device.directory, trial.session.memory.registry.catalog)] := by
  unfold Trial.trySave
  cases trial.saved? fails <;> exact List.map_append

theorem Alike.trySave (alike : Alike left right) :
    Alike (left.trySave failsLeft) (right.trySave failsRight) := by
  refine ⟨?_, ?_⟩
  · rw [memory_trySave, memory_trySave, alike.memory]
  · rw [tried_trySave, tried_trySave, alike.memory, alike.tried]

theorem Alike.adopting (alike : Alike left right) (effect : Effect) :
    Alike (left.adopting effect) (right.adopting effect) := by
  have carriedOut (session : Session) :
      ({ session with
        registry := { session.registry with catalog := effect.catalog }
        device := Registry.applyVoice session.device effect.voice } : Session).memory =
      { session.memory with
        registry := { session.memory.registry with catalog := effect.catalog }
        device := Registry.applyVoice session.memory.device effect.voice } := by
    unfold Registry.applyVoice
    cases effect.voice <;> rfl
  refine ⟨?_, alike.tried⟩
  unfold Trial.adopting
  dsimp only
  rw [carriedOut, carriedOut, alike.memory]

/-- Whether the catalog can be written out is decided without the files. -/
theorem Alike.announce
    {fireLeft fireRight : Event → Trial → Trial}
    (fires : ∀ event left right, Alike left right →
      Alike (fireLeft event left) (fireRight event right))
    (alike : Alike left right)
    (event : Event)
    (answer : Answer) :
    (left.announce failsLeft fireLeft event answer).1 =
        (right.announce failsRight fireRight event answer).1 ∧
      Alike (left.announce failsLeft fireLeft event answer).2
        (right.announce failsRight fireRight event answer).2 := by
  have asked : left.session.registry.isWritable left.session.device =
      right.session.registry.isWritable right.session.device :=
    congrArg (fun session => session.registry.isWritable session.device) alike.memory
  unfold Trial.announce
  rw [asked]
  by_cases writable : right.session.registry.isWritable right.session.device = true
  · rw [if_pos writable, if_pos writable]
    exact ⟨rfl, fires event _ _ alike.trySave⟩
  · rw [if_neg writable, if_neg writable]
    exact ⟨rfl, alike⟩

/-- The answers are the same unless they tell of the files, and they fail alike. -/
structure SameAnswers (operation : Operation) (left right : Answer) : Prop where
  isFailure : left.isFailure = right.isFailure
  answer : operation.asksFiles = false → left = right

theorem Alike.perform
    {fireLeft fireRight : Scope → Event → Trial → Trial}
    (fires : ∀ caller event left right, Alike left right →
      Alike (fireLeft caller event left) (fireRight caller event right))
    (alike : Alike left right)
    (caller : Scope)
    {step : Step}
    (leaves : step.operation.leavesFile = true) :
    SameAnswers step.operation (left.perform failsLeft fireLeft caller step).1
        (right.perform failsRight fireRight caller step).1 ∧
      Alike (left.perform failsLeft fireLeft caller step).2
        (right.perform failsRight fireRight caller step).2 := by
  obtain ⟨named, operation⟩ := step
  cases operation with
  | ask inquiry =>
      refine ⟨⟨?_, ?_⟩, alike⟩
      · exact (Session.isFailure_answer _ _ _).trans (Session.isFailure_answer _ _ _).symm
      · exact fun elsewhere => Session.answer_eq_of_memory alike.memory _ elsewhere
  | adjust adjustments =>
      refine ⟨⟨rfl, fun _ => rfl⟩, ?_, alike.tried⟩
      show (adjustments.foldl Session.adjust left.session).memory =
        (adjustments.foldl Session.adjust right.session).memory
      rw [Session.memory_adjustAll leaves, Session.memory_adjustAll leaves, alike.memory]
  | change change =>
      have decided := Session.effectOf_eq_of_memory alike.memory (named.getD caller) change
      unfold Trial.perform Trial.change
      dsimp only
      rw [decided]
      cases right.session.registry.effectOf right.session.device (named.getD caller) change with
      | error refusal => exact ⟨⟨rfl, fun _ => rfl⟩, alike⟩
      | ok effect =>
          obtain ⟨answers, next⟩ := (alike.adopting effect).announce
            (fires (named.getD caller)) effect.event (.ofSuccess change)
          exact ⟨⟨congrArg Answer.isFailure answers, fun _ => answers⟩, next⟩
  | writeFile content => exact absurd leaves Bool.false_ne_true
  | restart => exact absurd leaves Bool.false_ne_true
  | fail => exact ⟨⟨rfl, fun _ => rfl⟩, alike⟩

theorem Alike.fire
    (leave : scripts.LeaveFile)
    (depth : Nat)
    (caller : Scope)
    (event : Event)
    (alike : Alike left right) :
    Alike (left.fire failsLeft scripts depth caller event)
      (right.fire failsRight scripts depth caller event) := by
  induction depth generalizing caller event left right with
  | zero => exact alike
  | succ depth inductionHypothesis =>
      have listeners : left.session.bus.listeners = right.session.bus.listeners :=
        congrArg (fun session => session.bus.listeners) alike.memory
      unfold Trial.fire
      rw [listeners]
      apply Session.toAll_relates Alike
      · intro name left right alike
        refine ⟨?_, alike.tried⟩
        show (left.session.note caller name event).memory =
          (right.session.note caller name event).memory
        rw [Session.memory_note, Session.memory_note, alike.memory]
      · intro name actions reacts step member left right alike
        obtain ⟨answers, next⟩ := alike.perform
          (fun caller event _ _ alike => inductionHypothesis caller event alike) caller
          (leave name event actions reacts step member)
        exact ⟨next, congrArg (!·) answers.isFailure⟩
      · exact alike

/-- A step is answered alike, the same lines are added, and the trials stay alike. -/
theorem Alike.run
    (leave : scripts.LeaveFile)
    (alike : Alike left right)
    {step : Step}
    (leaves : step.operation.leavesFile = true) :
    SameAnswers step.operation (left.run failsLeft scripts step).1
        (right.run failsRight scripts step).1 ∧
      (left.run failsLeft scripts step).2.1 = (right.run failsRight scripts step).2.1 ∧
      Alike (left.run failsLeft scripts step).2.2 (right.run failsRight scripts step).2.2 := by
  have cleared : Alike { left with session := { left.session with lines := [] } }
      { right with session := { right.session with lines := [] } } :=
    ⟨congrArg (fun (session : Session) => { session with lines := [] }) alike.memory, alike.tried⟩
  obtain ⟨answers, next⟩ := cleared.perform
    (fun caller event _ _ alike => alike.fire leave Delivery.deepestNesting caller event)
    Scope.owner leaves
  have lines : ∀ session : Session, session.lines = session.memory.lines := fun _ => rfl
  refine ⟨answers, ?_, next⟩
  exact (lines _).trans ((congrArg Session.lines next.memory).trans (lines _).symm)

theorem Alike.runs
    (leave : scripts.LeaveFile)
    {steps : List Step}
    (leaves : ∀ step ∈ steps, step.operation.leavesFile = true)
    (alike : Alike left right) :
    Alike (left.runs failsLeft scripts steps) (right.runs failsRight scripts steps) := by
  induction steps generalizing left right with
  | nil => exact alike
  | cons step rest inductionHypothesis =>
      exact inductionHypothesis
        (fun later member => leaves later (List.mem_cons_of_mem step member))
        (alike.run leave (leaves step List.mem_cons_self)).2.2

end Alike

/-! ## What the file holds -/

/-- The last attempt that succeeded. -/
def lastSaved? (trial : Trial) : Option Attempt :=
  trial.attempts.reverse.find? Attempt.succeeded

/-- The file holds what was saved last, or still what it held at first. -/
def HoldsLast (original : Except ReadFault (List UInt8)) (trial : Trial) : Prop :=
  trial.session.stored =
    match trial.lastSaved? with
    | some attempt => .ok (StateFile.encode attempt.directory attempt.catalog)
    | none => original

section Stored

variable {original : Except ReadFault (List UInt8)} {fails : Nat → Bool} {scripts : Scripts Step}
  {trial : Trial}

/-- What stands at the place counts only while the registry keeps its place. -/
theorem HoldsLast.of_same
    (holds : HoldsLast original trial)
    {session : Session}
    (files : session.device.files = trial.session.device.files)
    (place : session.registry.stateFile = trial.session.registry.stateFile) :
    HoldsLast original { trial with session := session } := by
  unfold HoldsLast Session.stored at holds ⊢
  rw [files, place]
  exact holds

theorem HoldsLast.trySave (holds : HoldsLast original trial) :
    HoldsLast original (trial.trySave fails) := by
  unfold Trial.trySave
  cases saves : trial.saved? fails with
  | none =>
      unfold HoldsLast lastSaved? at holds ⊢
      rw [List.reverse_concat, List.find?_cons_of_neg Bool.false_ne_true]
      exact holds
  | some files =>
      have saved : StateFile.save? trial.session.device.directory
          trial.session.registry.stateFile trial.session.registry.catalog
          trial.session.device.files = some files := by
        unfold saved? at saves
        by_cases failing : fails trial.attempts.length = true
        · simp [failing] at saves
        · simpa [failing] using saves
      unfold HoldsLast lastSaved?
      rw [List.reverse_concat, List.find?_cons_of_pos rfl]
      exact StateFile.read_of_save?_eq_some saved

theorem HoldsLast.adopting (holds : HoldsLast original trial) (effect : Effect) :
    HoldsLast original (trial.adopting effect) := by
  apply holds.of_same
  · unfold Registry.applyVoice
    cases effect.voice <;> rfl
  · rfl

theorem HoldsLast.announce
    {fire : Event → Trial → Trial}
    (fires : ∀ event trial, HoldsLast original trial → HoldsLast original (fire event trial))
    (holds : HoldsLast original trial)
    (event : Event)
    (answer : Answer) :
    HoldsLast original (trial.announce fails fire event answer).2 := by
  unfold Trial.announce
  by_cases writable : trial.session.registry.isWritable trial.session.device = true
  · rw [if_pos writable]
    exact fires event _ holds.trySave
  · rw [if_neg writable]
    exact holds

theorem HoldsLast.perform
    {fire : Scope → Event → Trial → Trial}
    (fires : ∀ caller event trial, HoldsLast original trial →
      HoldsLast original (fire caller event trial))
    (holds : HoldsLast original trial)
    (caller : Scope)
    {step : Step}
    (leaves : step.operation.leavesFile = true) :
    HoldsLast original (trial.perform fails fire caller step).2 := by
  obtain ⟨named, operation⟩ := step
  cases operation with
  | ask inquiry => exact holds
  | adjust adjustments =>
      obtain ⟨files, place⟩ := Session.file_adjustAll leaves trial.session
      exact holds.of_same files place
  | change change =>
      unfold Trial.perform Trial.change
      dsimp only
      cases trial.session.registry.effectOf trial.session.device (named.getD caller) change with
      | error refusal => exact holds
      | ok effect => exact (holds.adopting effect).announce (fires (named.getD caller)) _ _
  | writeFile content => exact absurd leaves Bool.false_ne_true
  | restart => exact absurd leaves Bool.false_ne_true
  | fail => exact holds

theorem HoldsLast.fire
    (leave : scripts.LeaveFile)
    (depth : Nat)
    (caller : Scope)
    (event : Event)
    (holds : HoldsLast original trial) :
    HoldsLast original (trial.fire fails scripts depth caller event) := by
  induction depth generalizing caller event trial with
  | zero => exact holds
  | succ depth inductionHypothesis =>
      apply Session.toAll_keeps (HoldsLast original)
      · intro name trial holds
        exact holds.of_same rfl rfl
      · intro name actions reacts step member trial holds
        exact holds.perform (fun caller event _ holds => inductionHypothesis caller event holds)
          caller (leave name event actions reacts step member)
      · exact holds

theorem HoldsLast.run
    (leave : scripts.LeaveFile)
    (holds : HoldsLast original trial)
    {step : Step}
    (leaves : step.operation.leavesFile = true) :
    HoldsLast original (trial.run fails scripts step).2.2 := by
  have cleared : HoldsLast original
      { trial with session := { trial.session with lines := [] } } :=
    holds.of_same rfl rfl
  apply cleared.perform
  · exact fun caller event _ holds => holds.fire leave Delivery.deepestNesting caller event
  · exact leaves

theorem HoldsLast.runs
    (leave : scripts.LeaveFile)
    {steps : List Step}
    (leaves : ∀ step ∈ steps, step.operation.leavesFile = true)
    (holds : HoldsLast original trial) :
    HoldsLast original (trial.runs fails scripts steps) := by
  induction steps generalizing trial with
  | nil => exact holds
  | cons step rest inductionHypothesis =>
      exact inductionHypothesis
        (fun later member => leaves later (List.mem_cons_of_mem step member))
        (holds.run leave (leaves step List.mem_cons_self))

end Stored

/-! ## Starts -/

/-- A trial begins where a session does. -/
theorem start_of_found
    {device : Device}
    {processScope : Scope}
    {loaded : StateFile.LoadResult}
    (found : StateFile.load (Registry.startReader device processScope) device.settings.stateFile
      device.files = .ok loaded)
    (free : ¬ Startup.IsBlocked device.directory loaded)
    (fails : Nat → Bool) :
    Trial.start fails device processScope =
      let (catalog, mustSave) := Startup.ofLoaded device.directory loaded
      let registry : Registry :=
        ⟨catalog, processScope, processScope, Registry.upgradesOf device.settings,
          device.settings.stateFile⟩
      let trial : Trial := ⟨⟨device, registry, .empty, []⟩, []⟩
      .ok (if mustSave then trial.trySave fails else trial) := by
  unfold Trial.start
  rw [found]
  unfold Startup.IsBlocked at free
  simp only [bind, Except.bind, Registry.isWritable]
  cases mustSave : (Startup.ofLoaded device.directory loaded).2 with
  | false => rfl
  | true =>
      have writable : StateFile.isWritable device.directory
          (Startup.ofLoaded device.directory loaded).1 = true := by
        simpa [mustSave] using free
      simp [writable]

/-- However the save at the start goes, the trial begins like one without failures, which is the
session that starts. -/
theorem start_of_started
    {device : Device}
    {processScope : Scope}
    {session : Session}
    (started : Session.start device processScope = .ok session)
    (fails : Nat → Bool) :
    ∃ trial usual,
      Trial.start fails device processScope = .ok trial ∧
        Trial.start never device processScope = .ok usual ∧
        usual.session = session ∧
        Alike trial usual ∧
        HoldsLast (device.files.read device.settings.stateFile.parts) trial := by
  obtain ⟨registry, left, begins, rfl⟩ := Session.start_eq_ok started
  obtain ⟨loaded, found, free, begun⟩ := Registry.load_of_startWith_eq_ok begins
  let trial : Trial :=
    ⟨⟨device,
        ⟨(Startup.ofLoaded device.directory loaded).1, processScope, processScope,
          Registry.upgradesOf device.settings, device.settings.stateFile⟩,
        .empty, []⟩,
      []⟩
  have same : Alike trial trial := ⟨rfl, rfl⟩
  have holds : HoldsLast (device.files.read device.settings.stateFile.parts) trial := rfl
  have starts (choice : Nat → Bool) :
      Trial.start choice device processScope =
        .ok (if (Startup.ofLoaded device.directory loaded).2 then trial.trySave choice
          else trial) :=
    start_of_found found free choice
  refine ⟨_, _, starts fails, starts never, ?_, ?_, ?_⟩
  · rw [show registry = (Registry.begun device processScope loaded).1 from congrArg Prod.fst begun,
      show left = (Registry.begun device processScope loaded).2 from congrArg Prod.snd begun]
    unfold Registry.begun
    dsimp only
    cases (Startup.ofLoaded device.directory loaded).2 with
    | false => rfl
    | true => exact session_trySave_never trial
  · cases (Startup.ofLoaded device.directory loaded).2 with
    | false => exact same
    | true => exact same.trySave
  · cases (Startup.ofLoaded device.directory loaded).2 with
    | false => exact holds
    | true => exact holds.trySave

/-! ## Runs -/

/-- Whichever saves fail, the one at the start included: after any steps that leave the file to
the registry, everything but the files is as in the session that runs without failures, every
inquiry that does not tell of the files is answered alike to every caller, and the next step is
answered alike and adds the same lines.  The file holds the catalog of the last attempt that
succeeded, written as it was in use then, or what it held before the start.  The attempts are those
of the trial without failures. -/
theorem failed_saves_stayOutside
    {device : Device}
    {processScope : Scope}
    {session : Session}
    (started : Session.start device processScope = .ok session)
    (fails : Nat → Bool)
    {scripts : Scripts Step}
    (leave : scripts.LeaveFile)
    {steps : List Step}
    (leaves : ∀ step ∈ steps, step.operation.leavesFile = true) :
    ∃ trial usual,
      Trial.start fails device processScope = .ok trial ∧
        Trial.start never device processScope = .ok usual ∧
        let later := trial.runs fails scripts steps
        let unharmed := session.runs scripts steps
        (usual.runs never scripts steps).session = unharmed ∧
          later.session.memory = unharmed.memory ∧
          (∀ caller inquiry, inquiry.isAboutFiles = false →
            later.session.answer caller inquiry = unharmed.answer caller inquiry) ∧
          (∀ step : Step, step.operation.leavesFile = true →
            (step.operation.asksFiles = false →
              (later.run fails scripts step).1 = (unharmed.run scripts step).1) ∧
            (later.run fails scripts step).2.1 = (unharmed.run scripts step).2.1) ∧
          later.attempts.map Attempt.tried =
            (usual.runs never scripts steps).attempts.map Attempt.tried ∧
          later.session.stored =
            match later.lastSaved? with
            | some attempt => .ok (StateFile.encode attempt.directory attempt.catalog)
            | none => device.files.read device.settings.stateFile.parts := by
  obtain ⟨trial, usual, begun, begunUsual, rfl, alike, holds⟩ := start_of_started started fails
  refine ⟨trial, usual, begun, begunUsual, ?_⟩
  intro later unharmed
  have running : (usual.runs never scripts steps).session = unharmed := runs_never steps usual
  have alikeLater : Alike later (usual.runs never scripts steps) := alike.runs leave leaves
  have memory : later.session.memory = unharmed.memory := running ▸ alikeLater.memory
  refine ⟨running, memory, ?_, ?_, alikeLater.tried, holds.runs leave leaves⟩
  · intro caller inquiry elsewhere
    exact Session.answer_eq_of_memory memory caller elsewhere
  · intro step next
    obtain ⟨answers, lines, -⟩ := alikeLater.run leave next
    obtain ⟨usualAnswer, usualLines, -⟩ :=
      run_never (usual.runs never scripts steps) step
    rw [running] at usualAnswer usualLines
    exact ⟨fun elsewhere => (answers.answer elsewhere).trans usualAnswer, lines.trans usualLines⟩

/-! ## A sample -/

/-- The second save fails. -/
def failsSecond (index : Nat) : Bool := index = 1

/-- An account of the owner comes, and one of the profile. -/
def sampleSteps : List Step :=
  [⟨none, .adjust [.addListener "log"]⟩,
    ⟨none, .change (.register (Session.sampleAccount Scope.owner))⟩,
    ⟨some ⟨10⟩, .change (.register (Session.sampleAccount ⟨10⟩))⟩]

theorem sampleScripts_leaveFile : Session.sampleScripts.LeaveFile := by
  intro name event actions reacts step isAction
  obtain ⟨script, member, reaction, same, rfl⟩ := Script.exists_of_actionsOf? reacts
  rcases List.mem_cons.mp member with rfl | member
  · obtain rfl := Script.reacts.inj same
    rcases List.mem_cons.mp isAction with rfl | isAction
    · rfl
    · obtain rfl := List.mem_singleton.mp isAction
      rfl
  · obtain rfl := List.mem_singleton.mp member
    exact absurd same (by simp)

/-- The trial that begins on the device. -/
def sampleTrial : Trial := ⟨Session.sampleSession, []⟩

/-- The second account is there and the listener has heard of it, but the file holds the first
alone. -/
theorem failsSecond_keepsFirst :
    let later := sampleTrial.runs failsSecond Session.sampleScripts sampleSteps
    let unharmed := Session.sampleSession.runs Session.sampleScripts sampleSteps
    later.attempts.map Attempt.succeeded = [true, false] ∧
      later.session.memory = unharmed.memory ∧
      unharmed.registry.catalog.accounts =
        [Session.sampleAccount Scope.owner, Session.sampleAccount ⟨10⟩] ∧
      unharmed.lines = ["log:accounts:0"] ∧
      later.session.stored =
        .ok (StateFile.encode Session.sampleDevice.directory
          { accounts := [Session.sampleAccount Scope.owner] }) := by
  intro later unharmed
  obtain ⟨trial, usual, begun, -, -, memory, -, -, -, stored⟩ :=
    failed_saves_stayOutside Session.start_sampleDevice failsSecond sampleScripts_leaveFile
      (show ∀ step ∈ sampleSteps, step.operation.leavesFile = true by decide)
  obtain rfl : sampleTrial = trial := Except.ok.inj begun
  have last : later.lastSaved?.map Attempt.tried =
      some (Session.sampleDevice.directory,
        { accounts := [Session.sampleAccount Scope.owner] }) := by
    decide +kernel
  obtain ⟨attempt, found, tried⟩ := Option.map_eq_some_iff.mp last
  obtain ⟨directory, catalog⟩ := Prod.mk.inj tried
  refine ⟨by decide +kernel, memory, by decide +kernel, by decide +kernel, ?_⟩
  rw [stored, found]
  dsimp only
  rw [directory, catalog]

end Trial

end PhoneAccounts

import PhoneAccounts.Proofs.Session.SimAccounts

/-!
Contract: what switches an account on and off.

An account is switched by hand, or by being registered as a SIM.  What counts is the last time
that this happened since its handle came into the catalog; before the first time, the account is
as the start found it, and off if it came later.  What the caller of a registration says about the
switch counts for nothing.

Owns: `Switching`, the switchings of a run, and that they alone decide; registrations without
what their caller says about the switch.

Does not own: where a SIM that is off comes from (see `PhoneAccounts.Proofs.Session.SimAccounts`).
-/

namespace PhoneAccounts

/-- What can happen to the switch of an account: it is turned by hand, or the account is
registered as a SIM. -/
inductive Switching where
  | byHand (enabled : Bool)
  | asSim
deriving DecidableEq, Repr

/-- The position in which the switch is left. -/
def Switching.isOn : Switching → Bool
  | .byHand enabled => enabled
  | .asSim => true

theorem Switching.isOn_iff (switching : Switching) :
    switching.isOn = true ↔ switching ≠ .byHand false := by
  cases switching with
  | byHand enabled => cases enabled <;> simp [isOn]
  | asSim => simp [isOn]

/-- What a change does to the switch of a handle, once it is accepted. -/
def Change.switching? (handle : Handle) : Change → Option Switching
  | .register account =>
      if account.handle = handle ∧ account.isSim = true then some .asSim else none
  | .setEnabled named enabled =>
      if named = some handle then some (.byHand enabled) else none
  | _ => none

@[simp] theorem Account.handle_withEnabled (account : Account) (enabled : Bool) :
    (account.withEnabled enabled).handle = account.handle :=
  rfl

namespace Registry

variable {registry : Registry} {device : Device} {caller : Scope} {effect : Effect}

/-- After a change an account is as the change switches it, and otherwise as the account with its
handle was before; one that was not there before is off. -/
theorem enabled_effectOf
    {change : Change}
    (unique : Accounts.Unique registry.catalog.accounts)
    (accepted : registry.effectOf device caller change = .ok effect)
    {handle : Handle}
    {account : Account}
    (found : Accounts.find? handle effect.catalog.accounts = some account) :
    account.enabled =
      match change.switching? handle with
      | some switching => switching.isOn
      | none => (Accounts.find? handle registry.catalog.accounts).any Account.enabled := by
  have untouched (before : Accounts.find? handle registry.catalog.accounts = some account) :
      account.enabled =
        (Accounts.find? handle registry.catalog.accounts).any Account.enabled := by
    rw [before]
    rfl
  cases change with
  | register registered =>
      rw [(registerEffect_eq_ok accepted).2, Effect.ofAccounts, Accounts.find?_put, storedAs,
        Account.handle_withEnabled] at found
      by_cases same : registered.handle = handle
      · rw [if_pos same] at found
        obtain rfl := Option.some.inj found
        subst same
        cases sim : registered.isSim with
        | true =>
            rw [Change.switching?, if_pos ⟨rfl, sim⟩, Account.enabled_withEnabled, Bool.or_true]
            rfl
        | false =>
            rw [Change.switching?, if_neg (by simp [sim]), Account.enabled_withEnabled,
              Bool.or_false]
            rfl
      · rw [if_neg same] at found
        rw [Change.switching?, if_neg fun both => same both.1]
        exact untouched found
  | unregister named =>
      obtain ⟨dropped, -, rfl⟩ := unregisterEffect_eq_ok accepted
      rw [Effect.ofAccounts, Accounts.drop_eq_filter _ unique,
        Accounts.find?_filter _ unique] at found
      exact untouched (Option.filter_eq_some_iff.mp found).1
  | clear package scope =>
      rw [(clearEffect_eq_ok accepted).2, Effect.ofAccounts, Accounts.clear,
        Accounts.find?_filter _ unique] at found
      exact untouched (Option.filter_eq_some_iff.mp found).1
  | setEnabled named enabled =>
      obtain ⟨switched, known, -, -, rfl⟩ := setEnabledEffect_eq_ok accepted
      obtain ⟨rfl, -⟩ := account?_eq_some known
      rw [Effect.ofAccounts, Accounts.find?_put, Account.handle_withEnabled] at found
      by_cases same : switched.handle = handle
      · rw [if_pos same] at found
        obtain rfl := Option.some.inj found
        rw [Change.switching?, if_pos (congrArg some same)]
        rfl
      · rw [if_neg same] at found
        rw [Change.switching?, if_neg fun equal => same (Option.some.inj equal)]
        exact untouched found
  | setDefaultOutgoing chosen =>
      rw [(setDefaultOutgoingEffect_eq_ok accepted).2.1] at found
      exact untouched found
  | setCallManager chosen =>
      rw [(setCallManagerEffect_eq_ok accepted).2.1] at found
      exact untouched found

end Registry

/-! ## Runs -/

namespace Session

variable {session : Session} {handle : Handle} {account : Account}

/-- What a move does to the switch of a handle; a change that is refused does nothing. -/
def switching? (session : Session) (handle : Handle) : Move → Option Switching
  | .change caller change =>
      match session.registry.effectOf session.device caller change with
      | .ok _ => change.switching? handle
      | .error _ => none
  | _ => none

/-- What a run does to the switch of a handle, in order. -/
def switchings (session : Session) (handle : Handle) : List Move → List Switching
  | [] => []
  | move :: rest =>
      (session.switching? handle move).toList ++ (session.after move).switchings handle rest

/-- After a move an account is as the move switches it, and otherwise as before. -/
theorem enabled_after
    (inUse : session.registry.catalog.InUse)
    {move : Move}
    (goesOn : move.isRestart = false)
    (found : (session.after move).registry.account? (some handle) = some account) :
    account.enabled =
      match session.switching? handle move with
      | some switching => switching.isOn
      | none => (session.registry.account? (some handle)).any Account.enabled := by
  have untouched
      (same : (session.after move).registry.catalog = session.registry.catalog) :
      account.enabled = (session.registry.account? (some handle)).any Account.enabled := by
    have before : session.registry.account? (some handle) = some account := by
      unfold Registry.account? at found ⊢
      rw [← same]
      exact found
    rw [before]
    rfl
  cases move with
  | change caller change =>
      rw [switching?]
      cases decided : session.registry.effectOf session.device caller change with
      | error refusal =>
          exact untouched (by rw [after, carriedOut_of_refused decided])
      | ok effect =>
          rw [after, carriedOut_of_accepted decided] at found
          exact Registry.enabled_effectOf inUse.unique decided found
  | adjust adjustment => exact untouched (catalog_adjust session adjustment)
  | writeFile content => exact untouched (by rw [after, registry_writeFile])
  | restart processScope => exact absurd goesOn (by simp [Move.isRestart])
  | log lines => exact untouched rfl

/-- The last part of a run, in which a handle has been there all the time: from the move that
brought it, or from the start. -/
structure IsStay (session : Session) (handle : Handle) (before stay : List Move) : Prop where
  begins : (session.makes before).registry.account? (some handle) = none ∨ before = []
  lasts :
    Along (fun session move => (session.after move).registry.account? (some handle) ≠ none)
      (session.makes before) stay

/-- An account that is there after a run has a stay.  The last switching in it decides, and where
there is none, the account with which it began; an account that came in it begins off. -/
theorem exists_stay
    (inUse : session.registry.catalog.InUse)
    {moves : List Move}
    (goOn : ∀ move ∈ moves, move.isRestart = false)
    (found : (session.makes moves).registry.account? (some handle) = some account) :
    ∃ before stay, moves = before ++ stay ∧
      session.IsStay handle before stay ∧
      account.enabled =
        match ((session.makes before).switchings handle stay).getLast? with
        | some last => last.isOn
        | none => ((session.makes before).registry.account? (some handle)).any Account.enabled := by
  induction moves generalizing session with
  | nil =>
      refine ⟨[], [], rfl, ⟨.inr rfl, trivial⟩, ?_⟩
      rw [makes_nil] at found ⊢
      rw [found]
      rfl
  | cons move rest inductionHypothesis =>
      have goesOn := goOn move List.mem_cons_self
      have goOnRest : ∀ later ∈ rest, later.isRestart = false :=
        fun later member => goOn later (List.mem_cons_of_mem move member)
      obtain ⟨before, stay, rfl, isStay, enabled⟩ :=
        inductionHypothesis (inUse_after inUse move) goOnRest found
      cases first : ((session.after move).makes before).registry.account? (some handle) with
      | none => exact ⟨move :: before, stay, rfl, ⟨.inl first, isStay.lasts⟩, enabled⟩
      | some known =>
          -- The rest is a stay from its start, so the stay reaches back over the first move.
          obtain rfl : before = [] := isStay.begins.resolve_left (by simp [first])
          rw [makes_nil] at first enabled
          have there : (session.after move).registry.account? (some handle) ≠ none := by
            simp [first]
          refine ⟨[], move :: stay, rfl, ⟨.inr rfl, ⟨there, isStay.lasts⟩⟩, ?_⟩
          rw [enabled, makes_nil, switchings, List.getLast?_append]
          cases ((session.after move).switchings handle stay).getLast? with
          | some last => rfl
          | none =>
              have onward := enabled_after inUse goesOn first
              rw [first, Option.any_some, onward]
              cases session.switching? handle move <;> rfl

/-! ## Registrations without what their caller says about the switch -/

end Session

/-- The change with the switch off in an account that is to be registered. -/
def Change.withoutSwitch : Change → Change
  | .register account => .register (account.withEnabled false)
  | change => change

def Step.withoutSwitch (step : Step) : Step :=
  match step.operation with
  | .change change => { step with operation := .change change.withoutSwitch }
  | _ => step

def Script.withoutSwitches : Script Step → Script Step
  | .silent => .silent
  | .reacts actions => .reacts fun event => (actions event).map Step.withoutSwitch

def Scripts.withoutSwitches (scripts : Scripts Step) : Scripts Step :=
  scripts.map fun script => (script.1, script.2.withoutSwitches)

theorem Script.actionsOf?_withoutSwitches
    (scripts : Scripts Step)
    (name : String)
    (event : Event) :
    actionsOf? scripts.withoutSwitches name event =
      (actionsOf? scripts name event).map fun actions => actions.map Step.withoutSwitch := by
  have found : scripts.withoutSwitches.find? (fun script => script.1 = name) =
      (scripts.find? fun script => script.1 = name).map
        fun script => (script.1, script.2.withoutSwitches) :=
    List.find?_map
  unfold actionsOf?
  rw [found]
  cases scripts.find? (fun script => script.1 = name) with
  | none => rfl
  | some script =>
      obtain ⟨listener, reaction⟩ := script
      cases reaction <;> rfl

/-- Actions that are made from others are performed as those are. -/
theorem Delivery.runActions_map
    {State Action Other : Type}
    (perform : Action → State → State × Bool)
    (make : Other → Action)
    (others : List Other)
    (state : State) :
    runActions perform (others.map make) state =
      runActions (fun other => perform (make other)) others state := by
  induction others generalizing state with
  | nil => rfl
  | cons other rest inductionHypothesis =>
      rw [List.map_cons, runActions, runActions]
      simp only [inductionHypothesis]

namespace Session

theorem perform_withoutSwitch
    (session : Session)
    (fire : Scope → Event → Session → Session)
    (caller : Scope)
    (step : Step) :
    session.perform fire caller step.withoutSwitch = session.perform fire caller step := by
  obtain ⟨named, operation⟩ := step
  cases operation with
  | change change => cases change <;> rfl
  | _ => rfl

theorem fire_withoutSwitches (scripts : Scripts Step) (depth : Nat) :
    fire scripts.withoutSwitches depth = fire scripts depth := by
  induction depth with
  | zero => rfl
  | succ depth inductionHypothesis =>
      funext caller event session
      unfold fire Delivery.toAll
      rw [inductionHypothesis]
      congr 1
      funext session name
      unfold Delivery.react
      rw [Script.actionsOf?_withoutSwitches]
      cases Script.actionsOf? scripts name event with
      | none => rfl
      | some actions =>
          rw [Option.map_some]
          dsimp only
          rw [Delivery.runActions_map]
          congr 1
          funext step session
          unfold reactWith
          rw [perform_withoutSwitch]

theorem run_withoutSwitch (session : Session) (scripts : Scripts Step) (step : Step) :
    session.run scripts.withoutSwitches step.withoutSwitch = session.run scripts step := by
  unfold run
  rw [fire_withoutSwitches, perform_withoutSwitch]

/-- All that a run shows: for each step its answer, the lines that it adds, and the session after
it. -/
def transcript (session : Session) (scripts : Scripts Step) :
    List Step → List (Answer × List String × Session)
  | [] => []
  | step :: rest =>
      session.run scripts step :: (session.run scripts step).2.2.transcript scripts rest

theorem transcript_withoutSwitch
    (session : Session)
    (scripts : Scripts Step)
    (steps : List Step) :
    session.transcript scripts.withoutSwitches (steps.map Step.withoutSwitch) =
      session.transcript scripts steps := by
  induction steps generalizing session with
  | nil => rfl
  | cons step rest inductionHypothesis =>
      rw [List.map_cons, transcript, transcript, run_withoutSwitch, inductionHypothesis]

/-! ## The switch in a run -/

/-- A registry starts with accounts that the file holds. -/
theorem exists_file_of_mem_start
    {device : Device}
    {processScope : Scope}
    {session : Session}
    {account : Account}
    (started : start device processScope = .ok session)
    (member : account ∈ session.registry.catalog.accounts) :
    ∃ catalog, (idle device processScope).found processScope = .ok (.loaded catalog) ∧
      account ∈ catalog.accounts := by
  rw [← restarted_idle started, catalog_restarted] at member
  cases loads : (idle device processScope).foundForStart? processScope with
  | none =>
      rw [loads] at member
      exact absurd member List.not_mem_nil
  | some loaded =>
      rw [loads] at member
      obtain ⟨catalog, rfl, listed⟩ := Startup.mem_of_mem_ofLoaded member
      exact ⟨catalog, (foundForStart?_eq_some_iff.mp loads).1, listed⟩

/-- Take a start and any moves that do not start the registry again.  The accounts of the start
come from the file.  An account that is there in the end is on unless the last switching of its
stay turned it off by hand; without a switching, it is on just if it was there from the start on
and was on then.

Two runs of steps, in which the reactions of the listeners may register accounts as well, show the
same throughout if they differ in nothing but what registrations say about the switch. -/
theorem history_decides_enabled
    {device : Device}
    {processScope : Scope}
    {session : Session}
    (started : start device processScope = .ok session) :
    (∀ account ∈ session.registry.catalog.accounts, ∃ catalog,
      (idle device processScope).found processScope = .ok (.loaded catalog) ∧
        account ∈ catalog.accounts) ∧
    (∀ moves handle account,
      (∀ move ∈ moves, move.isRestart = false) →
      (session.makes moves).registry.account? (some handle) = some account →
        ∃ before stay, moves = before ++ stay ∧
          session.IsStay handle before stay ∧
          (account.enabled = true ↔
            match ((session.makes before).switchings handle stay).getLast? with
            | some last => last ≠ .byHand false
            | none =>
                before = [] ∧
                  ∃ known, session.registry.account? (some handle) = some known ∧
                    known.enabled = true)) ∧
    ∀ (scripts others : Scripts Step) (steps alike : List Step),
      scripts.withoutSwitches = others.withoutSwitches →
      steps.map Step.withoutSwitch = alike.map Step.withoutSwitch →
        session.transcript scripts steps = session.transcript others alike := by
  refine ⟨fun _ => exists_file_of_mem_start started, ?_, ?_⟩
  · intro moves handle account goOn found
    obtain ⟨before, stay, same, isStay, enabled⟩ :=
      exists_stay (inUse_start started) goOn found
    refine ⟨before, stay, same, isStay, ?_⟩
    rw [enabled]
    cases ((session.makes before).switchings handle stay).getLast? with
    | some last => exact last.isOn_iff
    | none =>
        dsimp only
        rcases isStay.begins with absent | rfl
        · rw [absent]
          refine ⟨fun on => absurd on Bool.false_ne_true, ?_⟩
          rintro ⟨rfl, known, there, -⟩
          rw [makes_nil, there] at absent
          exact absurd absent (by simp)
        · rw [makes_nil, Option.any_eq_true]
          exact (and_iff_right rfl).symm
  · intro scripts others steps alike sameScripts sameSteps
    rw [← transcript_withoutSwitch session scripts, sameScripts, sameSteps,
      transcript_withoutSwitch]

/-! ## A sample -/

/-- The SIM of the file as an account that is none. -/
def plainAccount : Account :=
  { fileSim false with capabilities := Capability.callProvider.mask }

/-- The SIM of the file is replaced by an account that is none, which is removed, registered again,
turned on by hand, and registered once more. -/
def switchMoves : List Move :=
  [.change Scope.owner (.register plainAccount),
    .change Scope.owner (.unregister plainAccount.handle),
    .change Scope.owner (.register plainAccount),
    .change Scope.owner (.setEnabled plainAccount.handle true),
    .change Scope.owner (.register plainAccount)]

/-- The account is on in the end, because it was turned on since it came back, and not because it
was on in the file.  Had its callers wanted it on, everything would be the same. -/
theorem switchMoves_decideEnabled :
    let session := simSession true
    let insistent : Account := plainAccount.withEnabled true
    (∃ before stay, switchMoves = before ++ stay ∧
      session.IsStay plainAccount.handle before stay ∧
      (insistent.enabled = true ↔
        match ((session.makes before).switchings plainAccount.handle stay).getLast? with
        | some last => last ≠ .byHand false
        | none =>
            before = [] ∧
              ∃ known, session.registry.account? (some plainAccount.handle) = some known ∧
                known.enabled = true)) ∧
    (session.makes (switchMoves.take 2)).switchings plainAccount.handle (switchMoves.drop 2) =
      [.byHand true] ∧
    session.transcript [] [⟨none, .change (.register plainAccount)⟩] =
      session.transcript [] [⟨none, .change (.register insistent)⟩] := by
  intro session insistent
  obtain ⟨-, stays, alike⟩ := history_decides_enabled (start_simDevice true)
  have found : (session.makes switchMoves).registry.account? (some plainAccount.handle) =
      some insistent := by
    decide +kernel
  have goOn : ∀ move ∈ switchMoves, move.isRestart = false := by decide
  exact ⟨stays switchMoves plainAccount.handle insistent goOn found, by decide +kernel,
    alike _ _ _ _ rfl rfl⟩

end Session

end PhoneAccounts

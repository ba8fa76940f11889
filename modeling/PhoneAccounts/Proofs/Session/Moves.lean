import PhoneAccounts.Proofs.Registry.Effect
import PhoneAccounts.Registry.Session

/-!
Contract: the sessions that can come about.

A step of a session can make many changes, since listeners react to its event with steps of
their own.  Each of them is a move: one change before its event is fired, one adjustment,
one write from outside, one restart, or a new log.  Whatever the listeners do, a step is a
list of moves, so what every move keeps holds at every moment of every run, also while an
event is being delivered.

Owns: `Move`, `after`, `makes`, `Leads` and `Reachable`, and that steps are made of moves.

Does not own: what the moves keep (see the other modules of `PhoneAccounts.Proofs.Session`).
-/

namespace PhoneAccounts

/-- What happens to a session at once.  A restart may be made by another process. -/
inductive Move where
  | change (caller : Scope) (change : Change)
  | adjust (adjustment : Adjustment)
  | writeFile (content : List UInt8)
  | restart (processScope : Scope)
  | log (lines : List String)
deriving DecidableEq, Repr

namespace Session

/-- The session once a change has been carried out or refused, before its event is fired. -/
def carriedOut (session : Session) (caller : Scope) (change : Change) : Session :=
  match session.registry.effectOf session.device caller change with
  | .error _ => session
  | .ok effect =>
      let (registry, device) := session.registry.commit session.device effect
      { session with registry := registry, device := device }

/-- The session with a new registry of a process in a scope, unless the file stops it. -/
def restarted (session : Session) (processScope : Scope) : Session :=
  match start session.device processScope with
  | .ok fresh => { fresh with lines := session.lines }
  | .error _ => session

/-- The session after a move. -/
def after (session : Session) : Move → Session
  | .change caller change => session.carriedOut caller change
  | .adjust adjustment => session.adjust adjustment
  | .writeFile content => (session.writeFile content).2
  | .restart processScope => session.restarted processScope
  | .log lines => { session with lines := lines }

/-- The session after some moves. -/
def makes (session : Session) (moves : List Move) : Session :=
  moves.foldl after session

/-- Moves lead from one session to another. -/
def Leads (before after : Session) : Prop :=
  ∃ moves, after = before.makes moves

/-- The session comes about by a start and moves. -/
inductive Reachable : Session → Prop where
  | start {device : Device} {processScope : Scope} {session : Session}
      (started : start device processScope = .ok session) : Reachable session
  | move {session : Session}
      (reached : Reachable session)
      (move : Move) : Reachable (session.after move)

/-! ## Moves -/

theorem makes_nil (session : Session) : session.makes [] = session := rfl

theorem makes_cons (session : Session) (move : Move) (moves : List Move) :
    session.makes (move :: moves) = (session.after move).makes moves := rfl

theorem makes_append (session : Session) (first second : List Move) :
    session.makes (first ++ second) = (session.makes first).makes second :=
  List.foldl_append

theorem Leads.refl (session : Session) : Leads session session :=
  ⟨[], rfl⟩

theorem Leads.trans
    {first second third : Session}
    (one : Leads first second)
    (two : Leads second third) :
    Leads first third := by
  obtain ⟨before, rfl⟩ := one
  obtain ⟨later, rfl⟩ := two
  exact ⟨before ++ later, (makes_append first before later).symm⟩

theorem Leads.move (session : Session) (move : Move) : Leads session (session.after move) :=
  ⟨[move], rfl⟩

/-- What is led to from a reachable session is reachable. -/
theorem Reachable.leads
    {before after : Session}
    (reached : Reachable before)
    (leads : Leads before after) :
    Reachable after := by
  obtain ⟨moves, rfl⟩ := leads
  induction moves generalizing before with
  | nil =>
      rw [makes_nil]
      exact reached
  | cons move rest inductionHypothesis =>
      rw [makes_cons]
      exact inductionHypothesis (reached.move move)

/-! ## Starts, changes, adjustments and restarts -/

theorem start_eq_ok
    {device : Device}
    {processScope : Scope}
    {session : Session}
    (started : start device processScope = .ok session) :
    ∃ registry device',
      Registry.start device processScope = .ok (registry, device') ∧
        session = ⟨device', registry, .empty, []⟩ := by
  unfold start at started
  cases begun : Registry.start device processScope with
  | error fault =>
      rw [begun] at started
      exact absurd started (by simp [bind, Except.bind])
  | ok result =>
      rw [begun] at started
      exact ⟨result.1, result.2, rfl, (Except.ok.inj started).symm⟩

theorem start_eq_error
    {device : Device}
    {processScope : Scope}
    {stop : StateFile.Stop}
    (stops : start device processScope = .error stop) :
    Registry.start device processScope = .error stop := by
  unfold start at stops
  cases begun : Registry.start device processScope with
  | error other =>
      rw [begun] at stops
      exact congrArg Except.error (Except.error.inj stops)
  | ok result =>
      rw [begun] at stops
      exact absurd stops (by simp [bind, Except.bind])

theorem carriedOut_of_refused
    {session : Session}
    {caller : Scope}
    {change : Change}
    {refusal : Refusal}
    (refused : session.registry.effectOf session.device caller change = .error refusal) :
    session.carriedOut caller change = session := by
  rw [carriedOut, refused]

theorem carriedOut_of_accepted
    {session : Session}
    {caller : Scope}
    {change : Change}
    {effect : Effect}
    (accepted : session.registry.effectOf session.device caller change = .ok effect) :
    session.carriedOut caller change =
      { session with
        registry := (session.registry.commit session.device effect).1
        device := (session.registry.commit session.device effect).2 } := by
  rw [carriedOut, accepted]

/-- The scopes that are known after a change are those that were known before. -/
theorem isWritable_carriedOut
    {session : Session}
    {caller : Scope}
    {change : Change}
    {effect : Effect}
    (accepted : session.registry.effectOf session.device caller change = .ok effect) :
    (session.carriedOut caller change).registry.isWritable
        (session.carriedOut caller change).device =
      StateFile.isWritable session.device.directory effect.catalog := by
  rw [carriedOut_of_accepted accepted, Registry.isWritable,
    (Registry.commit_snd session.registry session.device effect).1]
  rfl

/-- A refused change does nothing. -/
theorem change_of_refused
    {session : Session}
    {caller : Scope}
    {change : Change}
    {refusal : Refusal}
    (refused : session.registry.effectOf session.device caller change = .error refusal)
    (fire : Event → Session → Session) :
    session.change fire caller change = (.ofRefusal refusal, session) := by
  rw [Session.change, refused]

/-- An accepted change is carried out as a whole before its event is fired, and that only if the new
catalog can be written out. -/
theorem change_of_accepted
    {session : Session}
    {caller : Scope}
    {change : Change}
    {effect : Effect}
    (accepted : session.registry.effectOf session.device caller change = .ok effect)
    (fire : Event → Session → Session) :
    session.change fire caller change =
      if StateFile.isWritable session.device.directory effect.catalog then
        (.ofSuccess change, fire effect.event (session.carriedOut caller change))
      else (.stopped .longInteger, session.carriedOut caller change) := by
  rw [← isWritable_carriedOut accepted, Session.change, accepted, carriedOut_of_accepted accepted]
  rfl

theorem restart_snd (session : Session) :
    session.restart.2 = session.restarted session.registry.processScope := by
  unfold Session.restart restarted
  cases start session.device session.registry.processScope <;> rfl

theorem leads_adjust (session : Session) (adjustments : List Adjustment) :
    Leads session (adjustments.foldl adjust session) := by
  refine ⟨adjustments.map .adjust, ?_⟩
  rw [makes, List.foldl_map]
  rfl

/-! ## Delivery -/

/-- What each of some actions keeps, all of them in order keep. -/
theorem runActions_keeps
    {State Action : Type}
    (holds : State → Prop)
    {perform : Action → State → State × Bool}
    {actions : List Action}
    (keeps : ∀ action ∈ actions, ∀ state, holds state → holds (perform action state).1)
    {state : State}
    (held : holds state) :
    holds (Delivery.runActions perform actions state) := by
  induction actions generalizing state with
  | nil => exact held
  | cons action rest inductionHypothesis =>
      have next := keeps action List.mem_cons_self state held
      have keepsRest : ∀ later ∈ rest, ∀ state, holds state → holds (perform later state).1 :=
        fun later member => keeps later (List.mem_cons_of_mem action member)
      show holds
        (if (perform action state).2 then
          Delivery.runActions perform rest (perform action state).1
        else (perform action state).1)
      by_cases succeeded : (perform action state).2 = true
      · rw [if_pos succeeded]
        exact inductionHypothesis keepsRest next
      · rw [if_neg succeeded]
        exact next

/-- What every note and every action of a script keep, a delivery keeps. -/
theorem toAll_keeps
    {State Action : Type}
    (holds : State → Prop)
    {note : String → Event → State → State}
    {perform : Action → State → State × Bool}
    {scripts : Scripts Action}
    {event : Event}
    (notes : ∀ name state, holds state → holds (note name event state))
    (keeps : ∀ name actions, Script.actionsOf? scripts name event = some actions →
      ∀ action ∈ actions, ∀ state, holds state → holds (perform action state).1)
    (listeners : List String)
    {state : State}
    (held : holds state) :
    holds (Delivery.toAll scripts note perform event listeners state) := by
  induction listeners generalizing state with
  | nil => exact held
  | cons name rest inductionHypothesis =>
      apply inductionHypothesis
      unfold Delivery.react
      cases reacts : Script.actionsOf? scripts name event with
      | none => exact held
      | some actions =>
          exact runActions_keeps holds (keeps name actions reacts) (notes name state held)

/-- What relates two states after each of some actions, which succeeds in both or in neither,
relates them after all of the actions. -/
theorem runActions_relates
    {Left Right Action : Type}
    (relates : Left → Right → Prop)
    {performLeft : Action → Left → Left × Bool}
    {performRight : Action → Right → Right × Bool}
    {actions : List Action}
    (steps : ∀ action ∈ actions, ∀ left right, relates left right →
      relates (performLeft action left).1 (performRight action right).1 ∧
        (performLeft action left).2 = (performRight action right).2)
    {left : Left}
    {right : Right}
    (related : relates left right) :
    relates (Delivery.runActions performLeft actions left)
      (Delivery.runActions performRight actions right) := by
  induction actions generalizing left right with
  | nil => exact related
  | cons action rest inductionHypothesis =>
      obtain ⟨next, succeed⟩ := steps action List.mem_cons_self left right related
      have stepsRest : ∀ later ∈ rest, _ :=
        fun later member => steps later (List.mem_cons_of_mem action member)
      show relates
        (if (performLeft action left).2 then
          Delivery.runActions performLeft rest (performLeft action left).1
        else (performLeft action left).1)
        (if (performRight action right).2 then
          Delivery.runActions performRight rest (performRight action right).1
        else (performRight action right).1)
      rw [succeed]
      by_cases succeeded : (performRight action right).2 = true
      · rw [if_pos succeeded, if_pos succeeded]
        exact inductionHypothesis stepsRest next
      · rw [if_neg succeeded, if_neg succeeded]
        exact next

/-- What relates two states after every note and every action of a script, relates them after a
delivery. -/
theorem toAll_relates
    {Left Right Action : Type}
    (relates : Left → Right → Prop)
    {noteLeft : String → Event → Left → Left}
    {noteRight : String → Event → Right → Right}
    {performLeft : Action → Left → Left × Bool}
    {performRight : Action → Right → Right × Bool}
    {scripts : Scripts Action}
    {event : Event}
    (notes : ∀ name left right, relates left right →
      relates (noteLeft name event left) (noteRight name event right))
    (steps : ∀ name actions, Script.actionsOf? scripts name event = some actions →
      ∀ action ∈ actions, ∀ left right, relates left right →
        relates (performLeft action left).1 (performRight action right).1 ∧
          (performLeft action left).2 = (performRight action right).2)
    (listeners : List String)
    {left : Left}
    {right : Right}
    (related : relates left right) :
    relates (Delivery.toAll scripts noteLeft performLeft event listeners left)
      (Delivery.toAll scripts noteRight performRight event listeners right) := by
  induction listeners generalizing left right with
  | nil => exact related
  | cons name rest inductionHypothesis =>
      apply inductionHypothesis
      unfold Delivery.react
      cases reacts : Script.actionsOf? scripts name event with
      | none => exact related
      | some actions =>
          exact runActions_relates relates (steps name actions reacts)
            (notes name left right related)

/-! ## Steps -/

/-- A step is made of moves if firing an event is. -/
theorem leads_perform
    {fire : Scope → Event → Session → Session}
    (fires : ∀ caller event session, Leads session (fire caller event session))
    (session : Session)
    (caller : Scope)
    (step : Step) :
    Leads session (session.perform fire caller step).2 := by
  unfold perform
  cases step.operation with
  | ask inquiry => exact .refl session
  | adjust adjustments => exact leads_adjust session adjustments
  | change change =>
      simp only
      cases decided :
          session.registry.effectOf session.device (step.caller.getD caller) change with
      | ok effect =>
          have changed := Leads.move session (.change (step.caller.getD caller) change)
          rw [change_of_accepted decided]
          split
          · exact changed.trans (fires _ effect.event _)
          · exact changed
      | error refusal =>
          rw [change_of_refused decided]
          exact .refl session
  | writeFile content => exact .move session (.writeFile content)
  | restart =>
      simp only
      rw [restart_snd]
      exact .move session (.restart session.registry.processScope)
  | fail => exact .refl session

/-- Firing an event is made of moves, however deep reactions fire events themselves. -/
theorem leads_fire
    (scripts : Scripts Step)
    (depth : Nat)
    (caller : Scope)
    (event : Event)
    (session : Session) :
    Leads session (fire scripts depth caller event session) := by
  induction depth generalizing caller event session with
  | zero => exact .refl session
  | succ depth inductionHypothesis =>
      -- What a reaction fires is one level deeper, so the hypothesis speaks about it.
      apply toAll_keeps (Leads session)
      · intro name state reached
        exact reached.trans (.move state (.log _))
      · intro name actions reacts step member state reached
        exact reached.trans (leads_perform inductionHypothesis state caller step)
      · exact .refl session

theorem leads_run (session : Session) (scripts : Scripts Step) (step : Step) :
    Leads session (session.run scripts step).2.2 := by
  have cleared : Leads session { session with lines := [] } := .move session (.log [])
  exact cleared.trans (leads_perform (leads_fire scripts _) _ Scope.owner step)

/-- Every step leads from a reachable session to a reachable one. -/
theorem Reachable.run
    {session : Session}
    (reached : Reachable session)
    (scripts : Scripts Step)
    (step : Step) :
    Reachable (session.run scripts step).2.2 :=
  reached.leads (leads_run session scripts step)

end Session

end PhoneAccounts

import PhoneAccounts.Listener.Script
import PhoneAccounts.Proofs.Session.Moves

/-!
Contract: deliveries that keep a record of what they do.

A recording goes through a delivery step by step as the bus does, and writes down each action when
it is done, each call when it has ended, and each firing when all its calls have.  A listener may
act differently each time that it is called.

Owns: `Reactions`, `Recording` and its delivery; that recording changes nothing, and that a bound
on nested firing that was not reached does not matter.

Does not own: what the record says about the delivery (see
`PhoneAccounts.Proofs.Listener.Dispatch`).
-/

namespace PhoneAccounts

/-- How listeners act when they are told of an event; nothing if they do not hear it.  What a
listener does may depend on who is on the bus and on everything that was heard before.  It is said
for the whole call at once, but nothing comes in between that is not a part of the delivery. -/
abbrev Reactions := String → Event → BusLog → Option (List BusAction)

/-- Listeners with a script do the same each time. -/
def Scripts.reactions (scripts : Scripts BusAction) : Reactions :=
  fun name event _ => Script.actionsOf? scripts name event

namespace BusLog

/-- A listener is told of an event. -/
def tell
    (reactions : Reactions)
    (fire : Event → BusLog → BusLog)
    (event : Event)
    (log : BusLog)
    (name : String) :
    BusLog :=
  match reactions name event log with
  | none => log
  | some actions => Delivery.runActions (act fire) actions (note name event log)

/-- Fires an event at listeners of any kind. -/
def deliver (reactions : Reactions) : (depth : Nat) → Event → BusLog → BusLog
  | 0, _, log => log
  | depth + 1, event, log =>
      log.bus.listeners.foldl (tell reactions (deliver reactions depth) event) log

/-- Firing at listeners with scripts is firing at listeners that happen to do the same each
time. -/
theorem deliver_reactions (scripts : Scripts BusAction) (depth : Nat) :
    deliver scripts.reactions depth = fire scripts depth := by
  induction depth with
  | zero => rfl
  | succ depth inductionHypothesis =>
      funext event log
      rw [deliver, inductionHypothesis, fire, Delivery.toAll]
      congr 1
      funext log name
      unfold tell Delivery.react Scripts.reactions
      cases Script.actionsOf? scripts name event <;> rfl

end BusLog

/-! ## Recordings -/

/-- A listener was told of an event: how it found the bus, and what it did. -/
structure Call where
  listener : String
  event : Event
  found : BusLog
  done : List BusAction
deriving DecidableEq, Repr

namespace Call

def told (call : Call) : String × Event := (call.listener, call.event)

/-- What the listener set out to do. -/
def actions (reactions : Reactions) (call : Call) : List BusAction :=
  (reactions call.listener call.event call.found).getD []

end Call

/-- An event that was fired after `already` actions had been done, and the calls that it led to. -/
structure Firing where
  event : Event
  already : Nat
  calls : List Call
deriving DecidableEq, Repr

/-- All that was done by the calls of some firings. -/
def Firing.doneBy (firings : List Firing) : List BusAction :=
  firings.flatMap fun firing => firing.calls.flatMap Call.done

/-- A bus in the middle of a delivery, and a record of everything that was done so far: all actions
in the order in which they were done, the firings that have ended, the calls that the present
firing has made, and what the present call has done.  A recording is cut if an event was fired
deeper than the bound allows. -/
structure Recording where
  log : BusLog
  done : List BusAction
  firings : List Firing
  calls : List Call
  own : List BusAction
  isCut : Bool
deriving DecidableEq, Repr

namespace Recording

/-- Nothing has been done yet. -/
def begin (log : BusLog) : Recording := ⟨log, [], [], [], [], false⟩

def record (action : BusAction) (recording : Recording) : Recording :=
  { recording with done := recording.done ++ [action], own := recording.own ++ [action] }

/-- Performs an action and records it before anything that it brings about. -/
def act (fire : Event → Recording → Recording) (action : BusAction) (recording : Recording) :
    Recording × Bool :=
  match action with
  | .fire event => (fire event (recording.record action), true)
  | action =>
      let (log, succeeded) := BusLog.act (fun _ log => log) action recording.log
      ({ recording.record action with log }, succeeded)

/-- A listener hears an event; what it does from now on is its own. -/
def hears (name : String) (event : Event) (recording : Recording) : Recording :=
  { recording with log := BusLog.note name event recording.log, own := [] }

/-- A call has ended; `own` is what the call around it has done. -/
def called (recording : Recording) (own : List BusAction) (call : Call) : Recording :=
  { recording with calls := recording.calls ++ [call], own }

/-- A listener is told of an event, and the call is recorded. -/
def tell
    (reactions : Reactions)
    (fire : Event → Recording → Recording)
    (event : Event)
    (recording : Recording)
    (name : String) :
    Recording :=
  match reactions name event recording.log with
  | none => recording.called recording.own ⟨name, event, recording.log, []⟩
  | some actions =>
      let ran := Delivery.runActions (act fire) actions (recording.hears name event)
      ran.called recording.own ⟨name, event, recording.log, ran.own⟩

/-- All listeners are told of an event that is fired now. -/
def tellAll
    (reactions : Reactions)
    (fire : Event → Recording → Recording)
    (event : Event)
    (recording : Recording) :
    Recording :=
  recording.log.bus.listeners.foldl (tell reactions fire event) { recording with calls := [] }

/-- A firing that began in `before` is recorded, and the firing around it goes on. -/
def ends (before : Recording) (event : Event) (told : Recording) : Recording :=
  { told with
    firings := told.firings ++ [⟨event, before.done.length, told.calls⟩]
    calls := before.calls }

/-- Fires an event, and records the firing when it has ended. -/
def deliver (reactions : Reactions) : (depth : Nat) → Event → Recording → Recording
  | 0, _, recording => { recording with isCut := true }
  | depth + 1, event, recording =>
      recording.ends event (tellAll reactions (deliver reactions depth) event recording)

/-- Only a failure ends the actions of a call, whatever firing an event does. -/
theorem act_snd
    (fire : Event → Recording → Recording)
    (action : BusAction)
    (recording : Recording) :
    (act fire action recording).2 = true ↔ action ≠ .fail := by
  cases action <;> simp [act, BusLog.act]

/-! ## The recorded bus -/

section Erasure

variable {recordedFire : Event → Recording → Recording}
variable {plainFire : Event → BusLog → BusLog}
variable (fires : ∀ event recording,
  (recordedFire event recording).log = plainFire event recording.log)

include fires

theorem log_act (action : BusAction) (recording : Recording) :
    (act recordedFire action recording).1.log = (BusLog.act plainFire action recording.log).1 ∧
      (act recordedFire action recording).2 = (BusLog.act plainFire action recording.log).2 := by
  cases action with
  | fire event => exact ⟨fires event (recording.record (.fire event)), rfl⟩
  | _ => exact ⟨rfl, rfl⟩

theorem log_tell (reactions : Reactions) (event : Event) (recording : Recording) (name : String) :
    (tell reactions recordedFire event recording name).log =
      BusLog.tell reactions plainFire event recording.log name := by
  unfold tell BusLog.tell
  cases reactions name event recording.log with
  | none => rfl
  | some actions =>
      have steps : ∀ action ∈ actions, ∀ (left : Recording) (right : BusLog), left.log = right →
          (act recordedFire action left).1.log = (BusLog.act plainFire action right).1 ∧
            (act recordedFire action left).2 = (BusLog.act plainFire action right).2 := by
        rintro action - left _ rfl
        exact log_act fires action left
      let relates : Recording → BusLog → Prop := fun recording log => recording.log = log
      exact Session.runActions_relates relates steps rfl

end Erasure

/-- A recording changes nothing about the delivery. -/
theorem log_deliver
    (reactions : Reactions)
    (depth : Nat)
    (event : Event)
    (recording : Recording) :
    (deliver reactions depth event recording).log =
      BusLog.deliver reactions depth event recording.log := by
  induction depth generalizing event recording with
  | zero => rfl
  | succ depth inductionHypothesis =>
      rw [deliver, BusLog.deliver]
      have tells : ∀ (recording : Recording) (name : String),
          BusLog.tell reactions (BusLog.deliver reactions depth) event recording.log name =
            (tell reactions (deliver reactions depth) event recording name).log :=
        fun recording name => (log_tell inductionHypothesis reactions event recording name).symm
      exact (List.foldl_hom Recording.log tells).symm

/-! ## The bound on nested firing -/

section Bound

variable {fire deeper : Event → Recording → Recording}

/-- A recording that is cut stays cut. -/
def KeepsCut (fire : Event → Recording → Recording) : Prop :=
  ∀ event recording, recording.isCut = true → (fire event recording).isCut = true

theorem isCut_act
    (keeps : KeepsCut fire)
    (action : BusAction)
    {recording : Recording}
    (cut : recording.isCut = true) :
    (act fire action recording).1.isCut = true := by
  cases action with
  | fire event => exact keeps event _ cut
  | _ => exact cut

theorem isCut_runActions
    (keeps : KeepsCut fire)
    (actions : List BusAction)
    {recording : Recording}
    (cut : recording.isCut = true) :
    (Delivery.runActions (act fire) actions recording).isCut = true :=
  Session.runActions_keeps (fun recording : Recording => recording.isCut = true)
    (fun action _ _ cut => isCut_act keeps action cut) cut

theorem isCut_tell
    (keeps : KeepsCut fire)
    (reactions : Reactions)
    (event : Event)
    (name : String)
    {recording : Recording}
    (cut : recording.isCut = true) :
    (tell reactions fire event recording name).isCut = true := by
  unfold tell
  cases reactions name event recording.log with
  | none => exact cut
  | some actions => exact isCut_runActions keeps actions cut

theorem isCut_foldl_tell
    (keeps : KeepsCut fire)
    (reactions : Reactions)
    (event : Event)
    (names : List String)
    {recording : Recording}
    (cut : recording.isCut = true) :
    (names.foldl (tell reactions fire event) recording).isCut = true := by
  induction names generalizing recording with
  | nil => exact cut
  | cons name rest inductionHypothesis =>
      exact inductionHypothesis (isCut_tell keeps reactions event name cut)

theorem keepsCut_deliver (reactions : Reactions) (depth : Nat) :
    KeepsCut (deliver reactions depth) := by
  induction depth with
  | zero => exact fun _ _ _ => rfl
  | succ depth inductionHypothesis =>
      intro event recording cut
      exact isCut_foldl_tell inductionHypothesis reactions event _ cut

theorem uncut_of
    {before after : Recording}
    (keeps : before.isCut = true → after.isCut = true)
    (uncut : after.isCut = false) :
    before.isCut = false := by
  cases cut : before.isCut with
  | false => rfl
  | true =>
      rw [keeps cut] at uncut
      cases uncut

/-- Two recordings are the same unless the first is cut. -/
def SameUnlessCut (left right : Recording) : Prop :=
  left.isCut = false → right = left

theorem SameUnlessCut.refl (recording : Recording) : SameUnlessCut recording recording :=
  fun _ => rfl

/-- With a deeper bound, what is not cut leaves the same. -/
def AgreesWith (fire deeper : Event → Recording → Recording) : Prop :=
  ∀ event recording, SameUnlessCut (fire event recording) (deeper event recording)

theorem SameUnlessCut.act
    (keeps : KeepsCut fire)
    (agrees : AgreesWith fire deeper)
    (action : BusAction)
    {left right : Recording}
    (same : SameUnlessCut left right) :
    SameUnlessCut (act fire action left).1 (act deeper action right).1 := by
  intro uncut
  rw [same (uncut_of (isCut_act keeps action) uncut)]
  cases action with
  | fire event => exact agrees event _ uncut
  | _ => rfl

theorem SameUnlessCut.tell
    (keeps : KeepsCut fire)
    (agrees : AgreesWith fire deeper)
    (reactions : Reactions)
    (event : Event)
    (name : String)
    {left right : Recording}
    (same : SameUnlessCut left right) :
    SameUnlessCut (tell reactions fire event left name)
      (tell reactions deeper event right name) := by
  intro uncut
  rw [same (uncut_of (isCut_tell keeps reactions event name) uncut)]
  unfold Recording.tell at uncut ⊢
  cases decided : reactions name event left.log with
  | none => rfl
  | some actions =>
      rw [decided] at uncut
      have ran : SameUnlessCut
          (Delivery.runActions (Recording.act fire) actions (left.hears name event))
          (Delivery.runActions (Recording.act deeper) actions (left.hears name event)) := by
        apply Session.runActions_relates SameUnlessCut
        · intro action _ first second same
          have succeed := (act_snd fire action first).trans (act_snd deeper action second).symm
          exact ⟨same.act keeps agrees action, Bool.eq_iff_iff.mpr succeed⟩
        · exact .refl _
      dsimp only
      rw [ran uncut]

theorem sameUnlessCut_tellAll
    (keeps : KeepsCut fire)
    (agrees : AgreesWith fire deeper)
    (reactions : Reactions)
    (event : Event)
    (recording : Recording) :
    SameUnlessCut (tellAll reactions fire event recording)
      (tellAll reactions deeper event recording) := by
  unfold tellAll
  apply List.foldl_rel (SameUnlessCut.refl _)
  intro name _ left right same
  exact same.tell keeps agrees reactions event name

theorem agreesWith_deliver_succ (reactions : Reactions) (depth : Nat) :
    AgreesWith (deliver reactions depth) (deliver reactions (depth + 1)) := by
  induction depth with
  | zero =>
      intro event recording uncut
      cases uncut
  | succ depth inductionHypothesis =>
      intro event recording uncut
      have told := sameUnlessCut_tellAll (keepsCut_deliver reactions depth) inductionHypothesis
        reactions event recording
      rw [deliver, told uncut]
      rfl

/-- A delivery that is not cut does not depend on the bound. -/
theorem deliver_of_le
    {reactions : Reactions}
    {depth deeper : Nat}
    (le : depth ≤ deeper)
    {event : Event}
    {recording : Recording}
    (uncut : (deliver reactions depth event recording).isCut = false) :
    deliver reactions deeper event recording = deliver reactions depth event recording := by
  induction le with
  | refl => rfl
  | @step deeper _ inductionHypothesis =>
      have uncutThere : (deliver reactions deeper event recording).isCut = false := by
        rw [inductionHypothesis]
        exact uncut
      rw [agreesWith_deliver_succ reactions deeper event recording uncutThere]
      exact inductionHypothesis

end Bound

end Recording

end PhoneAccounts

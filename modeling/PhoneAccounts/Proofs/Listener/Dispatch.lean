import PhoneAccounts.Proofs.Listener.Recording

/-!
Contract: whom an event reaches when listeners act on the bus that is telling them.

An event reaches the listeners that are there when it is fired, in order and once for each time
that they were added, whatever they add, remove or fire meanwhile and wherever they fail.  The
listeners that are left are those from before, with all that was done applied in the order in which
it was done.

Owns: what actions make of the listeners, and what the record of a delivery says about it.

Does not own: listeners that act on a registry (see `PhoneAccounts.Proofs.Session.Announcement`).
-/

namespace PhoneAccounts

/-! ## What was done to the listeners -/

/-- A list without the first place of a name. -/
def withoutFirst (name : String) (listeners : List String) : List String :=
  listeners.takeWhile (· ≠ name) ++ (listeners.dropWhile (· ≠ name)).tail

theorem erase_eq_withoutFirst (name : String) (listeners : List String) :
    listeners.erase name = withoutFirst name listeners := by
  unfold withoutFirst
  induction listeners with
  | nil => rfl
  | cons head rest inductionHypothesis =>
      by_cases same : head = name
      · simp [same]
      · simp [same, inductionHypothesis]

theorem listeners_addMissing (bus : Bus) (name : String) :
    (bus.addMissing name).listeners =
      if name ∈ bus.listeners then bus.listeners else bus.listeners ++ [name] := by
  unfold Bus.addMissing
  by_cases present : name ∈ bus.listeners
  · rw [if_pos present, if_pos (List.contains_iff_mem.mpr present)]
  · rw [if_neg present, if_neg (fun found => present (List.contains_iff_mem.mp found))]
    rfl

namespace BusAction

/-- What an action makes of the listeners by itself. -/
def onListeners (listeners : List String) : BusAction → List String
  | .add name => listeners ++ [name]
  | .addMissing name => if name ∈ listeners then listeners else listeners ++ [name]
  | .remove none => listeners
  | .remove (some name) => withoutFirst name listeners
  | .fire _ => listeners
  | .fail => listeners

/-- What some actions make of the listeners, one after the other. -/
def replay (listeners : List String) (actions : List BusAction) : List String :=
  actions.foldl onListeners listeners

/-- Some actions up to the first that fails, with it. -/
def untilFailure : List BusAction → List BusAction
  | [] => []
  | .fail :: _ => [.fail]
  | action :: rest => action :: untilFailure rest

theorem untilFailure_cons
    {action : BusAction}
    (succeeds : action ≠ .fail)
    (rest : List BusAction) :
    untilFailure (action :: rest) = action :: untilFailure rest := by
  cases action with
  | fail => exact absurd rfl succeeds
  | _ => rfl

@[simp] theorem replay_append (listeners : List String) (first second : List BusAction) :
    replay listeners (first ++ second) = replay (replay listeners first) second :=
  List.foldl_append

end BusAction

/-! ## What a delivery records -/

open BusAction (replay untilFailure untilFailure_cons)

/-- A firing has reached, one call for each, the listeners that `done` had left when it began, and
each of them did what it set out to do up to the first failure. -/
structure Firing.ReachesThosePresent
    (reactions : Reactions)
    (listeners : List String)
    (done : List BusAction)
    (firing : Firing) :
    Prop where
  moment : firing.already ≤ done.length
  reached : firing.calls.map Call.told =
    (replay listeners (done.take firing.already)).map (·, firing.event)
  whole : ∀ call ∈ firing.calls, call.done = untilFailure (call.actions reactions)

/-- What was done so far explains the listeners and all firings. -/
structure Recording.IsFaithful
    (reactions : Reactions)
    (listeners : List String)
    (recording : Recording) :
    Prop where
  present : recording.log.bus.listeners = replay listeners recording.done
  firings : ∀ firing ∈ recording.firings,
    firing.ReachesThosePresent reactions listeners recording.done
  calls : ∀ call ∈ recording.calls, call.done = untilFailure (call.actions reactions)

/-- Nothing that was recorded is lost, and all events fired since then have a firing. -/
structure Recording.Continues (before after : Recording) : Prop where
  done : before.done <+: after.done
  firings : before.firings ⊆ after.firings
  fired : ∀ index event, before.done.length ≤ index →
    after.done[index]? = some (.fire event) →
    ∃ firing ∈ after.firings, firing.event = event ∧ firing.already = index + 1

/-- How often an action was done by calls of firings that go on. -/
def Recording.pending (recording : Recording) (action : BusAction) : Int :=
  recording.done.count action - (Firing.doneBy recording.firings).count action

/-- How often an action was done by calls that go on or by calls of firings around the present
one. -/
def Recording.outside (recording : Recording) (action : BusAction) : Int :=
  recording.pending action - (recording.calls.flatMap Call.done).count action

theorem Firing.ReachesThosePresent.later
    {reactions : Reactions}
    {listeners : List String}
    {done later : List BusAction}
    {firing : Firing}
    (reaches : firing.ReachesThosePresent reactions listeners done)
    (grown : done <+: later) :
    firing.ReachesThosePresent reactions listeners later where
  moment := Nat.le_trans reaches.moment grown.length_le
  reached := by
    obtain ⟨rest, rfl⟩ := grown
    rw [reaches.reached, List.take_append_of_le_length reaches.moment]
  whole := reaches.whole

namespace Recording

variable {reactions : Reactions}
variable {listeners : List String}
variable {before middle after : Recording}

/-! ### A record that grows -/

theorem getElem?_of_grown
    {done later : List BusAction}
    (grown : done <+: later)
    {index : Nat}
    (early : index < done.length) :
    later[index]? = done[index]? := by
  obtain ⟨rest, rfl⟩ := grown
  exact List.getElem?_append_left early

theorem Continues.of_same
    (done : after.done = before.done)
    (firings : after.firings = before.firings) :
    Continues before after where
  done := ⟨[], by rw [done, List.append_nil]⟩
  firings := by rw [firings]; exact List.Subset.refl _
  fired := by
    intro index event beyond here
    rw [done, List.getElem?_eq_none beyond] at here
    cases here

theorem Continues.trans (first : Continues before middle) (second : Continues middle after) :
    Continues before after where
  done := first.done.trans second.done
  firings := List.Subset.trans first.firings second.firings
  fired := by
    intro index event beyond here
    by_cases early : index < middle.done.length
    · have there : middle.done[index]? = some (.fire event) := by
        rw [← getElem?_of_grown second.done early, here]
      obtain ⟨firing, member, fired⟩ := first.fired index event beyond there
      exact ⟨firing, second.firings member, fired⟩
    · exact second.fired index event (Nat.le_of_not_lt early) here

/-- The record of an action that is done. -/
theorem Continues.of_record
    {action : BusAction}
    (continues : Continues (before.record action) after)
    (fired : ∀ event, action = .fire event →
      ∃ firing ∈ after.firings, firing.event = event ∧ firing.already = before.done.length + 1) :
    Continues before after where
  done := (List.prefix_append before.done [action]).trans continues.done
  firings := continues.firings
  fired := by
    intro index event beyond here
    have length : (before.record action).done.length = before.done.length + 1 :=
      List.length_append
    rcases Nat.eq_or_lt_of_le beyond with rfl | further
    · have there : (before.record action).done[before.done.length]? = some action :=
        List.getElem?_concat_length
      apply fired event
      rw [getElem?_of_grown continues.done (by omega), there] at here
      exact Option.some.inj here
    · exact continues.fired index event (by omega) here

theorem pending_record (recording : Recording) (done action : BusAction) :
    (recording.record done).pending action =
      recording.pending action + [done].count action := by
  have counted : (recording.record done).done.count action =
      recording.done.count action + [done].count action := List.count_append
  have sameFirings : (recording.record done).firings = recording.firings := rfl
  unfold pending
  rw [counted, sameFirings]
  omega

/-! ### What firings, actions and calls add -/

/-- What a firing adds to a recording. -/
structure Delivers
    (reactions : Reactions)
    (listeners : List String)
    (event : Event)
    (before after : Recording) :
    Prop where
  faithful : after.IsFaithful reactions listeners
  continues : Continues before after
  calls : after.calls = before.calls
  own : after.own = before.own
  fired : ∃ firing ∈ after.firings, firing.event = event ∧ firing.already = before.done.length
  pending : ∀ action, after.pending action = before.pending action

/-- What the actions of one call add to a recording. -/
structure Does
    (reactions : Reactions)
    (listeners : List String)
    (actions : List BusAction)
    (before after : Recording) :
    Prop where
  faithful : after.IsFaithful reactions listeners
  continues : Continues before after
  calls : after.calls = before.calls
  own : after.own = before.own ++ actions
  pending : ∀ action, after.pending action = before.pending action + actions.count action

/-- What some calls of a firing add to a recording. -/
structure Reaches
    (reactions : Reactions)
    (listeners : List String)
    (event : Event)
    (names : List String)
    (before after : Recording) :
    Prop where
  faithful : after.IsFaithful reactions listeners
  continues : Continues before after
  calls : after.calls.map Call.told = before.calls.map Call.told ++ names.map (·, event)
  own : after.own = before.own
  outside : ∀ action, after.outside action = before.outside action

theorem IsFaithful.same
    (faithful : before.IsFaithful reactions listeners)
    (present : after.log.bus.listeners = before.log.bus.listeners)
    (done : after.done = before.done)
    (firings : after.firings = before.firings)
    (calls : ∀ call ∈ after.calls, call.done = untilFailure (call.actions reactions)) :
    after.IsFaithful reactions listeners where
  present := by rw [present, done, faithful.present]
  firings := by rw [firings, done]; exact faithful.firings
  calls := calls

/-- An action has been recorded, and its own effect on the listeners has happened. -/
theorem IsFaithful.record
    (faithful : before.IsFaithful reactions listeners)
    (action : BusAction)
    {log : BusLog}
    (effect : log.bus.listeners = action.onListeners before.log.bus.listeners) :
    IsFaithful reactions listeners { before.record action with log } where
  present := by
    show log.bus.listeners = replay listeners (before.done ++ [action])
    rw [BusAction.replay_append, ← faithful.present, effect]
    rfl
  firings := by
    intro firing member
    exact (faithful.firings firing member).later (List.prefix_append before.done [action])
  calls := faithful.calls

theorem Does.refl (faithful : before.IsFaithful reactions listeners) :
    Does reactions listeners [] before before where
  faithful := faithful
  continues := .of_same rfl rfl
  calls := rfl
  own := (List.append_nil before.own).symm
  pending := fun _ => (Int.add_zero _).symm

theorem Does.trans
    {first second : List BusAction}
    (does : Does reactions listeners first before middle)
    (next : Does reactions listeners second middle after) :
    Does reactions listeners (first ++ second) before after where
  faithful := next.faithful
  continues := does.continues.trans next.continues
  calls := next.calls.trans does.calls
  own := by rw [next.own, does.own, List.append_assoc]
  pending := by
    intro action
    rw [next.pending, does.pending, List.count_append]
    omega

/-- What a call does is not yet accounted for while the call goes on. -/
theorem Does.outside
    {actions : List BusAction}
    (does : Does reactions listeners actions before after)
    (action : BusAction) :
    after.outside action = before.outside action + actions.count action := by
  unfold Recording.outside
  rw [does.pending, does.calls]
  omega

theorem Reaches.refl (event : Event) (faithful : before.IsFaithful reactions listeners) :
    Reaches reactions listeners event [] before before where
  faithful := faithful
  continues := .of_same rfl rfl
  calls := (List.append_nil _).symm
  own := rfl
  outside := fun _ => rfl

theorem Reaches.trans
    {event : Event}
    {first second : List String}
    (reaches : Reaches reactions listeners event first before middle)
    (next : Reaches reactions listeners event second middle after) :
    Reaches reactions listeners event (first ++ second) before after where
  faithful := next.faithful
  continues := reaches.continues.trans next.continues
  calls := by rw [next.calls, reaches.calls, List.append_assoc, List.map_append]
  own := next.own.trans reaches.own
  outside := fun action => (next.outside action).trans (reaches.outside action)

theorem IsFaithful.called
    (faithful : before.IsFaithful reactions listeners)
    (own : List BusAction)
    {call : Call}
    (whole : call.done = untilFailure (call.actions reactions)) :
    (before.called own call).IsFaithful reactions listeners := by
  have allWhole : ∀ other ∈ before.calls ++ [call],
      other.done = untilFailure (other.actions reactions) := by
    intro other member
    rcases List.mem_append.mp member with earlier | last
    · exact faithful.calls other earlier
    · rw [List.mem_singleton.mp last]
      exact whole
  exact faithful.same rfl rfl rfl allWhole

theorem outside_called
    (recording : Recording)
    (own : List BusAction)
    (call : Call)
    (action : BusAction) :
    (recording.called own call).outside action =
      recording.outside action - call.done.count action := by
  have counted : ((recording.called own call).calls.flatMap Call.done).count action =
      (recording.calls.flatMap Call.done).count action + call.done.count action := by
    unfold called
    rw [List.flatMap_append, List.count_append, List.flatMap_singleton]
  have samePending : (recording.called own call).pending action = recording.pending action := rfl
  unfold outside
  rw [counted, samePending]
  omega

/-! ### Steps of a delivery -/

/-- Firing an event leads to a delivery unless it is cut. -/
def FiresFaithfully
    (reactions : Reactions)
    (listeners : List String)
    (fire : Event → Recording → Recording) :
    Prop :=
  ∀ event before, before.IsFaithful reactions listeners → (fire event before).isCut = false →
    Delivers reactions listeners event before (fire event before)

section Steps

variable {fire : Event → Recording → Recording}
variable (fires : FiresFaithfully reactions listeners fire)
variable (keeps : KeepsCut fire)

/-- An action that fires nothing. -/
theorem does_plain
    (faithful : before.IsFaithful reactions listeners)
    {action : BusAction}
    (plain : ∀ event, action ≠ .fire event)
    {log : BusLog}
    (effect : log.bus.listeners = action.onListeners before.log.bus.listeners) :
    Does reactions listeners [action] before { before.record action with log } where
  faithful := faithful.record action effect
  continues := by
    have same : Continues (before.record action) { before.record action with log } :=
      .of_same rfl rfl
    exact same.of_record (fun event fired => absurd fired (plain event))
  calls := rfl
  own := rfl
  pending := before.pending_record action

include fires

theorem does_fire
    (faithful : before.IsFaithful reactions listeners)
    {event : Event}
    (uncut : (fire event (before.record (.fire event))).isCut = false) :
    Does reactions listeners [.fire event] before (fire event (before.record (.fire event))) := by
  have recorded : (before.record (.fire event)).IsFaithful reactions listeners :=
    faithful.record (.fire event) rfl
  have delivers := fires event (before.record (.fire event)) recorded uncut
  exact {
    faithful := delivers.faithful
    continues := by
      apply Continues.of_record delivers.continues
      intro other same
      cases same
      obtain ⟨firing, member, named, moment⟩ := delivers.fired
      exact ⟨firing, member, named, by rw [moment, record, List.length_append]; rfl⟩
    calls := delivers.calls
    own := delivers.own
    pending := by
      intro action
      rw [delivers.pending, pending_record] }

theorem does_act
    (faithful : before.IsFaithful reactions listeners)
    {action : BusAction}
    (uncut : (act fire action before).1.isCut = false) :
    Does reactions listeners [action] before (act fire action before).1 := by
  cases action with
  | fire event => exact does_fire fires faithful uncut
  | add name => exact does_plain faithful (by rintro _ ⟨⟩) rfl
  | addMissing name =>
      apply does_plain faithful (by rintro _ ⟨⟩)
      exact listeners_addMissing before.log.bus name
  | remove name =>
      apply does_plain faithful (by rintro _ ⟨⟩)
      cases name with
      | none => rfl
      | some name => exact erase_eq_withoutFirst name before.log.bus.listeners
  | fail => exact does_plain faithful (by rintro _ ⟨⟩) rfl

include keeps

theorem does_runActions
    (actions : List BusAction)
    {before : Recording}
    (faithful : before.IsFaithful reactions listeners)
    (uncut : (Delivery.runActions (act fire) actions before).isCut = false) :
    Does reactions listeners (untilFailure actions) before
      (Delivery.runActions (act fire) actions before) := by
  induction actions generalizing before with
  | nil => exact .refl faithful
  | cons action rest inductionHypothesis =>
      have inSteps : Delivery.runActions (act fire) (action :: rest) before =
          if (act fire action before).2 then
            Delivery.runActions (act fire) rest (act fire action before).1
          else (act fire action before).1 := rfl
      rw [inSteps] at uncut ⊢
      by_cases succeeded : (act fire action before).2 = true
      · rw [if_pos succeeded] at uncut ⊢
        rw [untilFailure_cons ((act_snd fire action before).mp succeeded)]
        have does := does_act fires faithful (uncut_of (isCut_runActions keeps rest) uncut)
        exact does.trans (inductionHypothesis does.faithful uncut)
      · rw [if_neg succeeded] at uncut ⊢
        have does := does_act fires faithful uncut
        have failed : action = .fail := by
          by_cases same : action = .fail
          · exact same
          · exact absurd ((act_snd fire action before).mpr same) succeeded
        rw [failed]
        rw [failed] at does
        exact does

theorem reaches_tell
    (event : Event)
    (name : String)
    (faithful : before.IsFaithful reactions listeners)
    (uncut : (tell reactions fire event before name).isCut = false) :
    Reaches reactions listeners event [name] before (tell reactions fire event before name) := by
  unfold tell at uncut ⊢
  cases decided : reactions name event before.log with
  | none =>
      have whole : [] = untilFailure ((reactions name event before.log).getD []) := by
        rw [decided]
        rfl
      exact {
        faithful := faithful.called before.own whole
        continues := .of_same rfl rfl
        calls := List.map_append
        own := rfl
        outside := by
          intro action
          rw [outside_called]
          exact Int.sub_zero _ }
  | some actions =>
      rw [decided] at uncut
      have heard : (before.hears name event).IsFaithful reactions listeners :=
        faithful.same rfl rfl rfl faithful.calls
      have does := does_runActions fires keeps actions heard uncut
      have whole : (Delivery.runActions (act fire) actions (before.hears name event)).own =
          untilFailure ((reactions name event before.log).getD []) := by
        rw [does.own, decided]
        rfl
      exact {
        faithful := does.faithful.called before.own whole
        continues := ⟨does.continues.done, does.continues.firings, does.continues.fired⟩
        calls := by
          show List.map Call.told (_ ++ [_]) = _
          rw [List.map_append, does.calls]
          rfl
        own := rfl
        outside := by
          intro action
          rw [outside_called, does.outside]
          dsimp only
          rw [does.own]
          exact Int.add_sub_cancel _ _ }

theorem reaches_foldl_tell
    (event : Event)
    (names : List String)
    {before : Recording}
    (faithful : before.IsFaithful reactions listeners)
    (uncut : (names.foldl (tell reactions fire event) before).isCut = false) :
    Reaches reactions listeners event names before
      (names.foldl (tell reactions fire event) before) := by
  induction names generalizing before with
  | nil => exact .refl event faithful
  | cons name rest inductionHypothesis =>
      have uncutFirst := uncut_of (isCut_foldl_tell keeps reactions event rest) uncut
      have reaches := reaches_tell fires keeps event name faithful uncutFirst
      exact reaches.trans (inductionHypothesis reaches.faithful uncut)

end Steps

/-! ### Firings -/

theorem pending_ends (before : Recording) (event : Event) (told : Recording) (action : BusAction) :
    (before.ends event told).pending action = told.outside action := by
  have counted : (Firing.doneBy (before.ends event told).firings).count action =
      (Firing.doneBy told.firings).count action +
        (told.calls.flatMap Call.done).count action := by
    unfold Firing.doneBy ends
    rw [List.flatMap_append, List.count_append, List.flatMap_singleton]
  have sameDone : (before.ends event told).done = told.done := rfl
  unfold outside pending
  rw [counted, sameDone]
  omega

/-- When all calls of a firing have been made, the firing has reached those present. -/
theorem delivers_ends
    (faithful : before.IsFaithful reactions listeners)
    (event : Event)
    {told : Recording}
    (reaches : Reaches reactions listeners event before.log.bus.listeners
      { before with calls := [] } told) :
    Delivers reactions listeners event before (before.ends event told) := by
  have grown : before.done <+: told.done := reaches.continues.done
  have began : told.done.take before.done.length = before.done := by
    obtain ⟨rest, same⟩ := grown
    rw [← same, List.take_left]
  have reached : Firing.ReachesThosePresent reactions listeners told.done
      ⟨event, before.done.length, told.calls⟩ := {
    moment := grown.length_le
    reached := by
      rw [began, ← faithful.present, reaches.calls]
      rfl
    whole := reaches.faithful.calls }
  exact {
    faithful := {
      present := reaches.faithful.present
      firings := by
        intro firing member
        rcases List.mem_append.mp member with earlier | last
        · exact reaches.faithful.firings firing earlier
        · rw [List.mem_singleton.mp last]
          exact reached
      calls := faithful.calls }
    continues := {
      done := grown
      firings := List.Subset.trans reaches.continues.firings (List.subset_append_left _ _)
      fired := by
        intro index other beyond here
        obtain ⟨firing, member, fired⟩ := reaches.continues.fired index other beyond here
        exact ⟨firing, List.mem_append_left _ member, fired⟩ }
    calls := rfl
    own := reaches.own
    fired := ⟨_, List.mem_append_right _ (List.mem_singleton_self _), rfl, rfl⟩
    pending := by
      intro action
      rw [pending_ends, reaches.outside]
      exact Int.sub_zero _ }

/-- A firing that is not cut is recorded as one that has reached those present. -/
theorem firesFaithfully_deliver
    (listeners : List String)
    (reactions : Reactions)
    (depth : Nat) :
    FiresFaithfully reactions listeners (deliver reactions depth) := by
  induction depth with
  | zero =>
      intro event before faithful uncut
      cases uncut
  | succ depth inductionHypothesis =>
      intro event before faithful uncut
      have begun : IsFaithful reactions listeners { before with calls := [] } :=
        faithful.same rfl rfl rfl (by rintro call ⟨⟩)
      have reaches := reaches_foldl_tell inductionHypothesis (keepsCut_deliver reactions depth)
        event before.log.bus.listeners begun uncut
      exact delivers_ends faithful event reaches

end Recording

/-! ## Whom an event reaches -/

/-- However listeners act on the bus that tells them, as long as events are fired only finitely deep
within one another: with every larger bound the delivery is the same, with scripts in particular;
the event itself, and every event that a listener fires, has a firing, which begins with what had
been done by then; a firing calls the listeners that what had been done has left, in order and once
for each place, and each call does what its listener set out to do up to its first failure; nothing
else was done; and the listeners that are left are the first ones with all that was done, in the
order in which it was done. -/
theorem dispatch_reaches_thosePresent
    (reactions : Reactions)
    (depth : Nat)
    (event : Event)
    (log : BusLog)
    (finite : (Recording.deliver reactions depth event (.begin log)).isCut = false) :
    let recording := Recording.deliver reactions depth event (.begin log)
    (∀ deeper, depth ≤ deeper →
      BusLog.deliver reactions deeper event log = recording.log ∧
        ∀ scripts : Scripts BusAction, scripts.reactions = reactions →
          BusLog.fire scripts deeper event log = recording.log) ∧
    (∃ firing ∈ recording.firings, firing.event = event ∧ firing.already = 0) ∧
    (∀ index other, recording.done[index]? = some (.fire other) →
      ∃ firing ∈ recording.firings, firing.event = other ∧ firing.already = index + 1) ∧
    (∀ firing ∈ recording.firings,
      firing.calls.map Call.told =
        (replay log.bus.listeners (recording.done.take firing.already)).map (·, firing.event) ∧
      ∀ call ∈ firing.calls, call.done = untilFailure (call.actions reactions)) ∧
    recording.done.Perm (Firing.doneBy recording.firings) ∧
    recording.log.bus.listeners = replay log.bus.listeners recording.done := by
  intro recording
  have begun : (Recording.begin log).IsFaithful reactions log.bus.listeners := {
    present := rfl
    firings := by rintro firing ⟨⟩
    calls := by rintro call ⟨⟩ }
  have delivers :=
    Recording.firesFaithfully_deliver log.bus.listeners reactions depth event _ begun finite
  refine ⟨?_, delivers.fired, ?_, ?_, ?_, delivers.faithful.present⟩
  · intro deeper le
    have same : BusLog.deliver reactions deeper event log = recording.log := by
      have unchanged := Recording.deliver_of_le le finite
      have logged := Recording.log_deliver reactions deeper event (.begin log)
      rw [unchanged] at logged
      exact logged.symm
    refine ⟨same, ?_⟩
    rintro scripts rfl
    rw [← BusLog.deliver_reactions]
    exact same
  · intro index other here
    exact delivers.continues.fired index other (Nat.zero_le index) here
  · intro firing member
    have reaches := delivers.faithful.firings firing member
    exact ⟨reaches.reached, reaches.whole⟩
  · rw [List.perm_iff_count]
    intro action
    have balanced : recording.pending action = 0 := delivers.pending action
    unfold Recording.pending at balanced
    omega

/-- A listener that takes itself off the bus, brings another and tells of the event again before it
fails, but only the first time, and one that just listens. -/
def jumpyReactions : Reactions := fun name _ log =>
  if name = "jumpy" then
    if log.lines = [] then
      some [.remove (some "jumpy"), .add "late", .fire .accounts, .fail, .add "never"]
    else
      some [.remove (some "jumpy"), .remove none, .addMissing "late"]
  else if name = "calm" then some []
  else none

theorem jumpyReactions_areReached :
    (Recording.deliver jumpyReactions 2 .accounts
      (.begin ⟨⟨["jumpy", "calm", "jumpy"]⟩, []⟩)).isCut = false ∧
    (BusLog.deliver jumpyReactions 250 .accounts
      ⟨⟨["jumpy", "calm", "jumpy"]⟩, []⟩).bus.listeners = ["calm", "late"] := by
  have finite : (Recording.deliver jumpyReactions 2 .accounts
      (.begin ⟨⟨["jumpy", "calm", "jumpy"]⟩, []⟩)).isCut = false := by decide
  have reached := dispatch_reaches_thosePresent jumpyReactions 2 .accounts
    ⟨⟨["jumpy", "calm", "jumpy"]⟩, []⟩ finite
  refine ⟨finite, ?_⟩
  rw [(reached.1 250 (by decide)).1, reached.2.2.2.2.2]
  decide

end PhoneAccounts

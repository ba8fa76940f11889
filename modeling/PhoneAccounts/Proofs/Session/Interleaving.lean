import PhoneAccounts.Proofs.Catalog.Owners
import PhoneAccounts.Proofs.Session.OrderedMap

/-!
Contract: clients with accounts of different owners do not disturb each other.

Clients share one registry, and their requests reach it in any order that keeps the order of
each client.  As long as each of them speaks only about owners of its own, its requests are decided
as if it were alone, and the accounts of its owners end up as if it were alone.  They are also
answered so, except that an answer is missing where the catalog cannot be written out, and the
catalog holds the accounts of all clients.  The services that components resolve to stay as they
are, and the listeners change neither them nor the catalog.

Owns: `Request`, `Change.isWithin`, `Session.serve`, `Served`, `Interleaves`, and that clients are
served as if alone.

Does not own: what a change does to the accounts of an area (see
`PhoneAccounts.Proofs.Catalog.Owners`).
-/

namespace PhoneAccounts

/-! ## Requests -/

/-- The change is about accounts of owners in an area, and about no choice among them.  A
handle that is missing has no owner. -/
def Change.isWithin (area : Owner → Bool) : Change → Bool
  | .register account => area account.handle.owner
  | .unregister handle => handle.all fun handle => area handle.owner
  | .clear package scope => area (package, scope)
  | .setEnabled handle _ => handle.all fun handle => area handle.owner
  | .setDefaultOutgoing _ => false
  | .setCallManager _ => false

/-- A change that a client asks for, and the scope on whose behalf it asks. -/
structure Request where
  caller : Option Scope
  change : Change
deriving DecidableEq, Repr

def Request.step (request : Request) : Step :=
  ⟨request.caller, .change request.change⟩

/-- A list of requests, each with its client, that holds what each client asks for in its
order. -/
def Interleaves
    {Client : Type}
    [DecidableEq Client]
    (sequences : Client → List Request)
    (merged : List (Client × Request)) :
    Prop :=
  ∀ client, (merged.filter fun tagged => tagged.1 = client).map Prod.snd = sequences client

/-- What is meant for a client, of what is given for each of a list of requests. -/
def givenTo
    {Client Given : Type}
    [DecidableEq Client]
    (client : Client)
    (merged : List (Client × Request))
    (given : List Given) :
    List Given :=
  ((merged.zip given).filter fun answered => answered.1.1 = client).map Prod.snd

/-! ## Bystanders -/

def Adjustment.leavesInstalls : Adjustment → Bool
  | .install _ _ _ => false
  | .uninstall _ _ => false
  | _ => true

/-- The operation leaves both the catalog and the installed components alone. -/
def Operation.isAside : Operation → Bool
  | .adjust adjustments => adjustments.all Adjustment.leavesInstalls
  | .change _ => false
  | .restart => false
  | _ => true

/-- No reaction of a listener changes the catalog or the installed components. -/
def Scripts.AreBystanders (scripts : Scripts Step) : Prop :=
  ∀ name event actions, Script.actionsOf? scripts name event = some actions →
    ∀ step ∈ actions, step.operation.isAside = true

/-! ## Decisions -/

namespace Registry

/-- Two decisions about one change are the same for an area: both refuse it for the same
reason, or both leave the same accounts there. -/
inductive SameDecision (area : Owner → Bool) :
    Except Refusal Effect → Except Refusal Effect → Prop where
  | refused (refusal : Refusal) : SameDecision area (.error refusal) (.error refusal)
  | accepted {left right : Effect}
      (accounts : Accounts.inArea area left.catalog.accounts =
        Accounts.inArea area right.catalog.accounts) :
      SameDecision area (.ok left) (.ok right)

variable
  {area : Owner → Bool}
  {left right : Registry}
  {leftDevice rightDevice : Device}
  {caller : Scope}

theorem find?_eq_of_inArea
    (same : Accounts.inArea area left.catalog.accounts =
      Accounts.inArea area right.catalog.accounts)
    {handle : Handle}
    (inside : area handle.owner = true) :
    left.catalog.find? handle = right.catalog.find? handle := by
  show Accounts.find? handle left.catalog.accounts = Accounts.find? handle right.catalog.accounts
  rw [← Accounts.find?_inArea inside, same, Accounts.find?_inArea inside]

theorem account?_eq_of_inArea
    (same : Accounts.inArea area left.catalog.accounts =
      Accounts.inArea area right.catalog.accounts)
    {handle : Option Handle}
    (inside : (handle.all fun handle => area handle.owner) = true) :
    left.account? handle = right.account? handle := by
  cases handle with
  | none => rfl
  | some handle => exact find?_eq_of_inArea same inside

/-- An account that a handle of the area finds is of the area. -/
theorem inside_of_account?
    {registry : Registry}
    {handle : Option Handle}
    {account : Account}
    (inside : (handle.all fun handle => area handle.owner) = true)
    (found : registry.account? handle = some account) :
    area account.handle.owner = true := by
  rw [(account?_eq_some found).1] at inside
  exact inside

theorem sameDecision_registerEffect
    (same : Accounts.inArea area left.catalog.accounts =
      Accounts.inArea area right.catalog.accounts)
    (sameInstalls : leftDevice.installs = rightDevice.installs)
    {account : Account}
    (inside : area account.handle.owner = true) :
    SameDecision area
      (left.registerEffect leftDevice account)
      (right.registerEffect rightDevice account) := by
  have permission :
      requiresBind leftDevice account.handle = requiresBind rightDevice account.handle := by
    rw [requiresBind, requiresBind, sameInstalls]
  have stored : storedAs left.catalog account = storedAs right.catalog account := by
    rw [storedAs, storedAs, find?_eq_of_inArea same inside]
  have storedInside : area (storedAs right.catalog account).handle.owner = true := inside
  unfold registerEffect
  rw [permission]
  by_cases permitted : requiresBind rightDevice account.handle = true
  · rw [if_pos permitted, if_pos permitted, stored]
    apply SameDecision.accepted
    show Accounts.inArea area (Accounts.put _ _) = Accounts.inArea area (Accounts.put _ _)
    rw [Accounts.inArea_put_of_inside storedInside, same,
      Accounts.inArea_put_of_inside storedInside]
  · rw [if_neg permitted, if_neg permitted]
    exact .refused .denied

theorem sameDecision_unregisterEffect
    (same : Accounts.inArea area left.catalog.accounts =
      Accounts.inArea area right.catalog.accounts)
    {handle : Option Handle}
    (inside : (handle.all fun handle => area handle.owner) = true) :
    SameDecision area (left.unregisterEffect handle) (right.unregisterEffect handle) := by
  unfold unregisterEffect
  rw [account?_eq_of_inArea same inside]
  cases found : right.account? handle with
  | none => exact .refused (.rejected (.removesUnknown handle))
  | some account =>
      have inside := inside_of_account? inside found
      apply SameDecision.accepted
      show Accounts.inArea area (Accounts.drop _ _) = Accounts.inArea area (Accounts.drop _ _)
      rw [Accounts.inArea_drop_of_inside inside, same, Accounts.inArea_drop_of_inside inside]

theorem sameDecision_clearEffect
    (same : Accounts.inArea area left.catalog.accounts =
      Accounts.inArea area right.catalog.accounts)
    {package : String}
    {scope : Option Scope}
    (inside : area (package, scope) = true) :
    SameDecision area (left.clearEffect package scope) (right.clearEffect package scope) := by
  have owned : left.catalog.accounts.any (Accounts.isOwnedBy package scope) =
      right.catalog.accounts.any (Accounts.isOwnedBy package scope) := by
    rw [← Accounts.any_isOwnedBy_inArea inside, same, Accounts.any_isOwnedBy_inArea inside]
  unfold clearEffect
  simp only [owned]
  by_cases something : right.catalog.accounts.any (Accounts.isOwnedBy package scope) = true
  · rw [if_pos something, if_pos something]
    apply SameDecision.accepted
    show Accounts.inArea area (Accounts.clear _ _ _) = Accounts.inArea area (Accounts.clear _ _ _)
    rw [Accounts.inArea_clear, same, Accounts.inArea_clear]
  · rw [if_neg something, if_neg something]
    exact .refused (.rejected (.clearsNothing package scope))

theorem sameDecision_setEnabledEffect
    (same : Accounts.inArea area left.catalog.accounts =
      Accounts.inArea area right.catalog.accounts)
    {handle : Option Handle}
    (inside : (handle.all fun handle => area handle.owner) = true)
    (enabled : Bool) :
    SameDecision area
      (left.setEnabledEffect handle enabled)
      (right.setEnabledEffect handle enabled) := by
  unfold setEnabledEffect
  rw [account?_eq_of_inArea same inside]
  cases found : right.account? handle with
  | none => exact .refused (.rejected (.switchesUnknown handle))
  | some account =>
      have insideFound := inside_of_account? inside found
      have switchedInside : area (account.withEnabled enabled).handle.owner = true := insideFound
      simp only
      by_cases sim : account.isSim = true
      · rw [if_pos sim, if_pos sim]
        exact .refused (.rejected (.switchesSim account.handle))
      · rw [if_neg sim, if_neg sim]
        by_cases switched : account.enabled = enabled
        · rw [if_pos switched, if_pos switched]
          exact .refused (.rejected .alreadySwitched)
        · rw [if_neg switched, if_neg switched]
          apply SameDecision.accepted
          show Accounts.inArea area (Accounts.put _ _) = Accounts.inArea area (Accounts.put _ _)
          rw [Accounts.inArea_put_of_inside switchedInside, same,
            Accounts.inArea_put_of_inside switchedInside]

/-- What becomes of a change within an area depends on nothing but the accounts there and the
installed components. -/
theorem sameDecision_effectOf
    (same : Accounts.inArea area left.catalog.accounts =
      Accounts.inArea area right.catalog.accounts)
    (sameInstalls : leftDevice.installs = rightDevice.installs)
    (caller : Scope)
    {change : Change}
    (inside : change.isWithin area = true) :
    SameDecision area
      (left.effectOf leftDevice caller change)
      (right.effectOf rightDevice caller change) := by
  cases change with
  | register account => exact sameDecision_registerEffect same sameInstalls inside
  | unregister handle => exact sameDecision_unregisterEffect same inside
  | clear package scope => exact sameDecision_clearEffect same inside
  | setEnabled handle enabled => exact sameDecision_setEnabledEffect same inside enabled
  | setDefaultOutgoing handle => exact absurd inside Bool.false_ne_true
  | setCallManager handle => exact absurd inside Bool.false_ne_true

/-- A change within one area leaves the accounts of another alone. -/
theorem inArea_effectOf_of_outside
    {registry : Registry}
    {device : Device}
    {other : Owner → Bool}
    (disjoint : ∀ owner, other owner = true → area owner = false)
    {change : Change}
    {effect : Effect}
    (inside : change.isWithin other = true)
    (accepted : registry.effectOf device caller change = .ok effect) :
    Accounts.inArea area effect.catalog.accounts =
      Accounts.inArea area registry.catalog.accounts := by
  cases change with
  | register account =>
      have outside : area (storedAs registry.catalog account).handle.owner = false :=
        disjoint account.handle.owner inside
      rw [(registerEffect_eq_ok accepted).2]
      exact Accounts.inArea_put_of_outside outside _
  | unregister handle =>
      obtain ⟨account, found, rfl⟩ := unregisterEffect_eq_ok accepted
      have outside := disjoint _ (inside_of_account? inside found)
      exact Accounts.inArea_drop_of_outside outside _
  | clear package scope =>
      rw [(clearEffect_eq_ok accepted).2]
      exact Accounts.inArea_clear_of_outside (disjoint _ inside) _
  | setEnabled handle enabled =>
      obtain ⟨account, found, -, -, rfl⟩ := setEnabledEffect_eq_ok accepted
      have outside := disjoint account.handle.owner (inside_of_account? inside found)
      have outside : area (account.withEnabled enabled).handle.owner = false := outside
      exact Accounts.inArea_put_of_outside outside _
  | setDefaultOutgoing handle => exact absurd inside Bool.false_ne_true
  | setCallManager handle => exact absurd inside Bool.false_ne_true

end Registry

/-- How a request is served: what was decided about it, and whether the catalog that is in use
afterwards can be written out. -/
structure Served where
  decided : Answer
  writable : Bool
deriving DecidableEq, Repr

/-- The answer to a request: what was decided, unless the catalog cannot be written out. -/
def Served.answer (served : Served) : Answer :=
  if served.writable then served.decided else .stopped .longInteger

namespace Session

/-- Makes requests one after the other: their answers, and the session after them. -/
def serve (scripts : Scripts Step) : List Request → Session → List Answer × Session
  | [], session => ([], session)
  | request :: rest, session =>
      let (answer, _, next) := session.run scripts request.step
      let (answers, last) := serve scripts rest next
      (answer :: answers, last)

/-- The accounts of the owners in an area, in their order. -/
def holdings (area : Owner → Bool) (session : Session) : List Account :=
  Accounts.inArea area session.registry.catalog.accounts

/-- Two sessions are alike as far as changes within an area are concerned. -/
structure InStep (area : Owner → Bool) (left right : Session) : Prop where
  installs : left.device.installs = right.device.installs
  accounts : left.holdings area = right.holdings area

variable {area : Owner → Bool} {scripts : Scripts Step}

theorem InStep.refl (session : Session) : InStep area session session :=
  ⟨rfl, rfl⟩

theorem InStep.trans
    {first second third : Session}
    (one : InStep area first second)
    (two : InStep area second third) :
    InStep area first third :=
  ⟨one.installs.trans two.installs, one.accounts.trans two.accounts⟩

/-! ## Listeners -/

/-- The catalog and the installed components are the same. -/
structure KeepsBoth (before after : Session) : Prop where
  catalog : after.registry.catalog = before.registry.catalog
  installs : after.device.installs = before.device.installs

theorem KeepsBoth.refl (session : Session) : KeepsBoth session session :=
  ⟨rfl, rfl⟩

theorem KeepsBoth.trans
    {first second third : Session}
    (one : KeepsBoth first second)
    (two : KeepsBoth second third) :
    KeepsBoth first third :=
  ⟨two.catalog.trans one.catalog, two.installs.trans one.installs⟩

theorem keepsBoth_adjustAll
    (session : Session)
    {adjustments : List Adjustment}
    (leaves : adjustments.all Adjustment.leavesInstalls = true) :
    KeepsBoth session (adjustments.foldl adjust session) := by
  induction adjustments generalizing session with
  | nil => exact .refl session
  | cons adjustment rest inductionHypothesis =>
      rw [List.all_cons, Bool.and_eq_true] at leaves
      have kept : KeepsBoth session (session.adjust adjustment) := by
        refine ⟨catalog_adjust session adjustment, ?_⟩
        cases adjustment with
        | install component scope permission => exact absurd leaves.1 Bool.false_ne_true
        | uninstall component scope => exact absurd leaves.1 Bool.false_ne_true
        | _ => rfl
      exact kept.trans (inductionHypothesis _ leaves.2)

theorem keepsBoth_perform
    (fire : Scope → Event → Session → Session)
    (caller : Scope)
    (session : Session)
    {step : Step}
    (aside : step.operation.isAside = true) :
    KeepsBoth session (session.perform fire caller step).2 := by
  obtain ⟨named, operation⟩ := step
  cases operation with
  | ask inquiry => exact .refl session
  | adjust adjustments => exact keepsBoth_adjustAll session aside
  | change change => exact absurd aside Bool.false_ne_true
  | writeFile content =>
      show KeepsBoth session (session.writeFile content).2
      refine ⟨by rw [registry_writeFile], ?_⟩
      unfold writeFile
      cases session.device.files.write? content session.registry.stateFile.parts <;> rfl
  | restart => exact absurd aside Bool.false_ne_true
  | fail => exact .refl session

/-- Firing an event at bystanders leaves the catalog and the installed components alone. -/
theorem keepsBoth_fire
    (bystanders : Scripts.AreBystanders scripts)
    (depth : Nat)
    (caller : Scope)
    (event : Event)
    (session : Session) :
    KeepsBoth session (fire scripts depth caller event session) := by
  cases depth with
  | zero => exact .refl session
  | succ depth =>
      apply toAll_keeps (KeepsBoth session)
      · intro name state kept
        exact ⟨kept.catalog, kept.installs⟩
      · intro name actions reacts step member state kept
        exact kept.trans
          (keepsBoth_perform _ caller state (bystanders name event actions reacts step member))
      · exact .refl session

/-! ## One request -/

/-- What a decision about a change answers, if the catalog can be written out. -/
def answerOf (change : Change) : Except Refusal Effect → Answer
  | .error refusal => .ofRefusal refusal
  | .ok _ => .ofSuccess change

/-- The accounts that a decision leaves. -/
def accountsAfter (accounts : List Account) : Except Refusal Effect → List Account
  | .error _ => accounts
  | .ok effect => effect.catalog.accounts

theorem answerOf_eq_of_sameDecision
    (change : Change)
    {left right : Except Refusal Effect}
    (same : Registry.SameDecision area left right) :
    answerOf change left = answerOf change right := by
  cases same <;> rfl

theorem inArea_accountsAfter
    {leftAccounts rightAccounts : List Account}
    (sameAccounts : Accounts.inArea area leftAccounts = Accounts.inArea area rightAccounts)
    {left right : Except Refusal Effect}
    (same : Registry.SameDecision area left right) :
    Accounts.inArea area (accountsAfter leftAccounts left) =
      Accounts.inArea area (accountsAfter rightAccounts right) := by
  cases same with
  | refused refusal => exact sameAccounts
  | accepted accounts => exact accounts

/-- The catalog that a decision leads to can be written out; after a refusal nothing is. -/
def leavesWritable (directory : ScopeDirectory) : Except Refusal Effect → Bool
  | .error _ => true
  | .ok effect => StateFile.isWritable directory effect.catalog

/-- What is decided about a request. -/
def decision (session : Session) (request : Request) : Except Refusal Effect :=
  session.registry.effectOf session.device (request.caller.getD Scope.owner) request.change

/-- How a session serves a request. -/
def served (session : Session) (request : Request) : Served :=
  ⟨answerOf request.change (session.decision request),
    leavesWritable session.device.directory (session.decision request)⟩

/-- With bystanders as listeners, a request is answered by the decision about its change, unless the
catalog cannot be written out, and leaves the accounts that the decision leaves. -/
theorem run_request
    (bystanders : Scripts.AreBystanders scripts)
    (session : Session)
    (request : Request) :
    let result := session.run scripts request.step
    result.1 = (session.served request).answer ∧
      result.2.2.registry.catalog.accounts =
        accountsAfter session.registry.catalog.accounts (session.decision request) ∧
      result.2.2.device.installs = session.device.installs := by
  obtain ⟨named, change⟩ := request
  let caller := named.getD Scope.owner
  let cleared : Session := { session with lines := [] }
  let firing := fire scripts Delivery.deepestNesting caller
  show (cleared.change firing caller change).1 = _ ∧
    (cleared.change firing caller change).2.registry.catalog.accounts = _ ∧
    (cleared.change firing caller change).2.device.installs = _
  simp only [served, decision]
  cases decided : session.registry.effectOf session.device caller change with
  | error refusal =>
      have decided : cleared.registry.effectOf cleared.device caller change =
        .error refusal := decided
      rw [change_of_refused decided]
      exact ⟨rfl, rfl, rfl⟩
  | ok effect =>
      have decided : cleared.registry.effectOf cleared.device caller change = .ok effect := decided
      have carried := carriedOut_of_accepted decided
      have installs : (cleared.carriedOut caller change).device.installs =
          session.device.installs := by
        rw [carried]
        show (Registry.applyVoice session.device effect.voice).installs = session.device.installs
        cases effect.voice <;> rfl
      have catalog : (cleared.carriedOut caller change).registry.catalog = effect.catalog := by
        rw [carried]
        rfl
      rw [change_of_accepted decided]
      cases writable : StateFile.isWritable cleared.device.directory effect.catalog with
      | true =>
          have fired := keepsBoth_fire bystanders Delivery.deepestNesting caller effect.event
            (cleared.carriedOut caller change)
          have writable : leavesWritable session.device.directory (.ok effect) = true := writable
          rw [Served.answer, writable]
          exact ⟨rfl, congrArg Catalog.accounts (fired.catalog.trans catalog),
            fired.installs.trans installs⟩
      | false =>
          have writable : leavesWritable session.device.directory (.ok effect) = false := writable
          rw [Served.answer, writable]
          exact ⟨rfl, congrArg Catalog.accounts catalog, installs⟩

/-- Sessions that are alike for an area decide a request within it alike, and stay alike. -/
theorem InStep.run_of_inside
    (bystanders : Scripts.AreBystanders scripts)
    {left right : Session}
    (inStep : InStep area left right)
    {request : Request}
    (inside : request.change.isWithin area = true) :
    (left.served request).decided = (right.served request).decided ∧
      InStep area (left.run scripts request.step).2.2 (right.run scripts request.step).2.2 := by
  obtain ⟨-, leftAccounts, leftInstalls⟩ := run_request bystanders left request
  obtain ⟨-, rightAccounts, rightInstalls⟩ := run_request bystanders right request
  have installs : (left.run scripts request.step).2.2.device.installs =
      (right.run scripts request.step).2.2.device.installs := by
    rw [leftInstalls, rightInstalls, inStep.installs]
  have decided : Registry.SameDecision area (left.decision request) (right.decision request) :=
    Registry.sameDecision_effectOf inStep.accounts inStep.installs
      (request.caller.getD Scope.owner) inside
  have accounts := inArea_accountsAfter inStep.accounts decided
  rw [← leftAccounts, ← rightAccounts] at accounts
  exact ⟨answerOf_eq_of_sameDecision request.change decided, installs, accounts⟩

/-- A request within another area leaves a session alike for this one. -/
theorem inStep_run_of_outside
    (bystanders : Scripts.AreBystanders scripts)
    (session : Session)
    {other : Owner → Bool}
    (disjoint : ∀ owner, other owner = true → area owner = false)
    {request : Request}
    (inside : request.change.isWithin other = true) :
    InStep area (session.run scripts request.step).2.2 session := by
  obtain ⟨-, accounts, installs⟩ := run_request bystanders session request
  refine ⟨installs, ?_⟩
  unfold holdings
  rw [accounts]
  cases decided : session.decision request with
  | error refusal => rfl
  | ok effect => exact Registry.inArea_effectOf_of_outside disjoint inside decided

/-! ## Many requests -/

theorem serve_cons (request : Request) (rest : List Request) (session : Session) :
    serve scripts (request :: rest) session =
      ((session.run scripts request.step).1 ::
          (serve scripts rest (session.run scripts request.step).2.2).1,
        (serve scripts rest (session.run scripts request.step).2.2).2) := rfl

/-- How requests are served that are made one after the other. -/
def servings (scripts : Scripts Step) : List Request → Session → List Served
  | [], _ => []
  | request :: rest, session =>
      session.served request :: servings scripts rest (session.run scripts request.step).2.2

theorem serve_fst
    (bystanders : Scripts.AreBystanders scripts)
    (requests : List Request)
    (session : Session) :
    (serve scripts requests session).1 = (servings scripts requests session).map Served.answer := by
  induction requests generalizing session with
  | nil => rfl
  | cons request rest inductionHypothesis =>
      rw [serve_cons, servings, List.map_cons, inductionHypothesis,
        (run_request bystanders session request).1]

/-- Requests within other areas leave a session alike for this one. -/
theorem inStep_serve_of_outside
    (bystanders : Scripts.AreBystanders scripts)
    {requests : List Request}
    (outside : ∀ request ∈ requests, ∃ other : Owner → Bool,
      (∀ owner, other owner = true → area owner = false) ∧
        request.change.isWithin other = true)
    (session : Session) :
    InStep area (serve scripts requests session).2 session := by
  induction requests generalizing session with
  | nil => exact .refl session
  | cons request rest inductionHypothesis =>
      obtain ⟨other, disjoint, inside⟩ := outside request List.mem_cons_self
      have first := inStep_run_of_outside bystanders session disjoint inside
      have later := inductionHypothesis
        (fun other member => outside other (List.mem_cons_of_mem request member))
        (session.run scripts request.step).2.2
      rw [serve_cons]
      exact later.trans first

section Clients

variable {Client : Type} [DecidableEq Client]

/-- A client whose requests are served among those of others, and alone, in sessions that are
alike for its area, has them decided alike, and the sessions stay alike. -/
theorem InStep.serve
    (bystanders : Scripts.AreBystanders scripts)
    {areas : Client → Owner → Bool}
    (disjoint : ∀ first second owner,
      areas first owner = true → areas second owner = true → first = second)
    (client : Client)
    {merged : List (Client × Request)}
    (within : ∀ tagged ∈ merged, tagged.2.change.isWithin (areas tagged.1) = true)
    {shared alone : Session}
    (inStep : InStep (areas client) shared alone) :
    let own := (merged.filter fun tagged => tagged.1 = client).map Prod.snd
    (givenTo client merged (servings scripts (merged.map Prod.snd) shared)).map Served.decided =
        (servings scripts own alone).map Served.decided ∧
      InStep (areas client)
        (Session.serve scripts (merged.map Prod.snd) shared).2
        (Session.serve scripts own alone).2 := by
  induction merged generalizing shared alone with
  | nil => exact ⟨rfl, inStep⟩
  | cons tagged rest inductionHypothesis =>
      obtain ⟨asker, request⟩ := tagged
      have insideAsker : request.change.isWithin (areas asker) = true :=
        within (asker, request) List.mem_cons_self
      have withinRest : ∀ tagged ∈ rest, tagged.2.change.isWithin (areas tagged.1) = true :=
        fun tagged member => within tagged (List.mem_cons_of_mem _ member)
      simp only [List.map_cons, serve_cons, servings]
      by_cases asks : asker = client
      · subst asks
        obtain ⟨sameDecision, stillInStep⟩ := inStep.run_of_inside bystanders insideAsker
        obtain ⟨sameDecisions, inStepLast⟩ := inductionHypothesis withinRest stillInStep
        rw [List.filter_cons_of_pos (by simp), List.map_cons, serve_cons, servings, List.map_cons]
        refine ⟨?_, inStepLast⟩
        rw [← sameDecisions, ← sameDecision]
        simp [givenTo]
      · have apart : ∀ owner, areas asker owner = true → areas client owner = false := by
          intro owner ofAsker
          rw [Bool.eq_false_iff]
          intro ofClient
          exact asks (disjoint asker client owner ofAsker ofClient)
        have undisturbed := inStep_run_of_outside bystanders shared apart insideAsker
        obtain ⟨sameDecisions, inStepLast⟩ :=
          inductionHypothesis withinRest (undisturbed.trans inStep)
        rw [List.filter_cons_of_neg (by simpa using asks)]
        refine ⟨?_, inStepLast⟩
        rw [← sameDecisions]
        simp [givenTo, asks]

/-- What is said of each request is said of each that is meant for a client. -/
theorem map_givenTo
    {Given Said : Type}
    (say : Given → Said)
    (client : Client)
    (merged : List (Client × Request))
    (given : List Given) :
    givenTo client merged (given.map say) = (givenTo client merged given).map say := by
  unfold givenTo
  rw [List.zip_map_right, List.filter_map, List.map_map, List.map_map]
  rfl

/-- Where all catalogs can be written out, the answers are the decisions. -/
theorem map_answer_of_writable
    {servings : List Served}
    (writable : ∀ served ∈ servings, served.writable = true) :
    servings.map Served.answer = servings.map Served.decided := by
  refine List.map_congr_left fun served member => ?_
  exact if_pos (writable served member)

theorem mem_of_mem_givenTo
    {Given : Type}
    {client : Client}
    {merged : List (Client × Request)}
    {given : List Given}
    {value : Given}
    (member : value ∈ givenTo client merged given) :
    value ∈ given := by
  obtain ⟨answered, listed, rfl⟩ := List.mem_map.mp member
  exact (List.of_mem_zip (List.mem_filter.mp listed).1).2

/-- Clients that share a registry, each asking only about owners of its own, do not disturb
each other, except that one of them can bring in what cannot be written out.

In whatever order their requests are served, those of each client are decided as they are when it is
served alone, denials included, and its owners have the accounts that they have then, in the same
order.  The accounts of all other owners stay as they are.  A request is answered by its decision,
unless the catalog that is in use afterwards cannot be written out; so where all catalogs can, each
client gets the answers that it gets alone. -/
theorem clients_areUndisturbed
    (session : Session)
    {scripts : Scripts Step}
    (bystanders : Scripts.AreBystanders scripts)
    {areas : Client → Owner → Bool}
    (disjoint : ∀ first second owner,
      areas first owner = true → areas second owner = true → first = second)
    {sequences : Client → List Request}
    (within : ∀ client, ∀ request ∈ sequences client,
      request.change.isWithin (areas client) = true)
    {merged : List (Client × Request)}
    (interleaves : Interleaves sequences merged) :
    let shared := session.serve scripts (merged.map Prod.snd)
    let sharedServings := session.servings scripts (merged.map Prod.snd)
    shared.1 = sharedServings.map Served.answer ∧
      (∀ client,
        let alone := session.serve scripts (sequences client)
        let aloneServings := session.servings scripts (sequences client)
        alone.1 = aloneServings.map Served.answer ∧
          (givenTo client merged sharedServings).map Served.decided =
            aloneServings.map Served.decided ∧
          ((∀ served ∈ sharedServings, served.writable = true) →
            (∀ served ∈ aloneServings, served.writable = true) →
              givenTo client merged shared.1 = alone.1) ∧
          shared.2.holdings (areas client) = alone.2.holdings (areas client)) ∧
      ∀ elsewhere : Owner → Bool,
        (∀ client owner, areas client owner = true → elsewhere owner = false) →
          shared.2.holdings elsewhere = session.holdings elsewhere := by
  have mergedWithin :
      ∀ tagged ∈ merged, tagged.2.change.isWithin (areas tagged.1) = true := by
    intro tagged member
    apply within tagged.1
    rw [← interleaves tagged.1]
    exact List.mem_map_of_mem (List.mem_filter.mpr ⟨member, by simp⟩)
  intro shared sharedServings
  have sharedAnswers : shared.1 = sharedServings.map Served.answer :=
    serve_fst bystanders (merged.map Prod.snd) session
  refine ⟨sharedAnswers, ?_, ?_⟩
  · intro client alone aloneServings
    have aloneAnswers : alone.1 = aloneServings.map Served.answer :=
      serve_fst bystanders (sequences client) session
    obtain ⟨decisions, inStep⟩ := InStep.serve bystanders disjoint client mergedWithin
      (InStep.refl session)
    rw [interleaves client] at decisions inStep
    refine ⟨aloneAnswers, decisions, fun sharedWritable aloneWritable => ?_, inStep.accounts⟩
    rw [sharedAnswers, aloneAnswers, map_givenTo, map_answer_of_writable aloneWritable,
      map_answer_of_writable fun served member => sharedWritable served (mem_of_mem_givenTo member)]
    exact decisions
  · intro elsewhere apart
    refine (inStep_serve_of_outside bystanders ?_ session).accounts
    intro request member
    obtain ⟨tagged, isMerged, rfl⟩ := List.mem_map.mp member
    exact ⟨areas tagged.1, apart tagged.1, mergedWithin tagged isMerged⟩

end Clients

/-! ## Samples -/

/-- The owner's scope and everybody else, each with its own accounts. -/
def sampleAreas (ofOwner : Bool) (owner : Owner) : Bool :=
  decide (owner.2 = some Scope.owner) == ofOwner

/-- What the two clients ask for: one adds an account, switches it on, and clears another
package; the other adds one twice, is denied another, and removes one without a handle. -/
def sampleSequences (ofOwner : Bool) : List Request :=
  if ofOwner then
    [⟨none, .register (sampleAccount Scope.owner)⟩,
      ⟨none, .setEnabled (some (sampleAccount Scope.owner).handle) true⟩,
      ⟨none, .clear "com.other" (some Scope.owner)⟩]
  else
    [⟨none, .register (sampleAccount ⟨10⟩)⟩,
      ⟨none, .register { sampleAccount ⟨10⟩ with label := "again" }⟩,
      ⟨none, .register { handle := ⟨⟨"com.other", "Service"⟩, "line", some ⟨10⟩⟩ }⟩,
      ⟨none, .unregister none⟩]

/-- The requests of the two clients as they may arrive. -/
def sampleMerged : List (Bool × Request) :=
  let ofOwner := (sampleSequences true).map fun request => (true, request)
  let ofOthers := (sampleSequences false).map fun request => (false, request)
  ofOthers.take 1 ++ ofOwner.take 2 ++ ofOthers.drop 1 ++ ofOwner.drop 2

/-- The two clients are served as if alone, while a listener asks for all accounts at every
event and then fails. -/
theorem sampleMerged_areUndisturbed :
    let session := sampleSession.makes [.adjust (.addListener "log")]
    let scripts : Scripts Step :=
      [("log", .reacts fun _ => [⟨none, .ask .allAccounts⟩, ⟨none, .fail⟩])]
    let shared := session.serve scripts (sampleMerged.map Prod.snd)
    givenTo true sampleMerged shared.1 =
        [.nothing, .outcome .applied,
          .outcome (.rejected (.clearsNothing "com.other" (some Scope.owner)))] ∧
      givenTo false sampleMerged shared.1 =
        [.nothing, .nothing, .denied, .outcome (.rejected (.removesUnknown none))] ∧
      shared.2.holdings (sampleAreas false) =
        (session.serve scripts (sampleSequences false)).2.holdings (sampleAreas false) := by
  intro session scripts shared
  have bystanders : Scripts.AreBystanders scripts := by
    intro name event actions reacts
    by_cases isLog : name = "log"
    · subst isLog
      obtain rfl := Option.some.inj reacts
      intro step isAction
      rcases List.mem_cons.mp isAction with rfl | isAction
      · rfl
      · obtain rfl := List.mem_singleton.mp isAction
        rfl
    · have unscripted : Script.actionsOf? scripts name event = none := by
        simp [Script.actionsOf?, scripts, Ne.symm isLog]
      rw [unscripted] at reacts
      exact absurd reacts (by simp)
  have disjoint : ∀ first second owner,
      sampleAreas first owner = true → sampleAreas second owner = true → first = second := by
    intro first second owner inFirst inSecond
    rw [sampleAreas, beq_iff_eq] at inFirst inSecond
    exact inFirst.symm.trans inSecond
  have within : ∀ client, ∀ request ∈ sampleSequences client,
      request.change.isWithin (sampleAreas client) = true := by
    decide
  have interleaves : Interleaves sampleSequences sampleMerged := by
    intro client
    cases client <;> rfl
  have undisturbed :=
    clients_areUndisturbed session bystanders disjoint within interleaves
  have sharedWritable : ∀ served ∈ session.servings scripts (sampleMerged.map Prod.snd),
      served.writable = true := by
    decide +kernel
  have aloneWritable : ∀ client, ∀ served ∈ session.servings scripts (sampleSequences client),
      served.writable = true := by
    decide +kernel
  obtain ⟨-, -, ofOwner, -⟩ := undisturbed.2.1 true
  obtain ⟨-, -, ofOthers, accounts⟩ := undisturbed.2.1 false
  refine ⟨(ofOwner sharedWritable (aloneWritable true)).trans ?_,
    (ofOthers sharedWritable (aloneWritable false)).trans ?_, accounts⟩
  · decide +kernel
  · decide +kernel

/-- One client registers an account whose capabilities take 4301 digits, and the other one an
account of its own.  Neither is answered; alone, the second one is. -/
theorem boundlessClient_disturbs :
    let boundless := { sampleAccount ⟨10⟩ with capabilities := Number.tenTo 4300 }
    let merged : List (Bool × Request) :=
      [(false, ⟨none, .register boundless⟩), (true, ⟨none, .register (sampleAccount Scope.owner)⟩)]
    (sampleSession.serve [] (merged.map Prod.snd)).1 =
        [.stopped .longInteger, .stopped .longInteger] ∧
      (sampleSession.serve [] [⟨none, .register (sampleAccount Scope.owner)⟩]).1 =
        [.nothing] := by
  intro boundless merged
  exact ⟨by decide +kernel, by decide +kernel⟩

end Session

end PhoneAccounts

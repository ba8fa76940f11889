import PhoneAccounts.Proofs.Session.Stored

/-!
Contract: which subscriptions the choices of a session stand for.

One number stands for no subscription, whatever the reason: the account is not there, the caller
does not see it, no SIM backs it, nothing is assigned to it, or nothing was ever chosen.  Choosing
a SIM for outgoing calls sets the subscription for calls to what the caller sees of that SIM, and
the account for messages is recognised by comparing two such numbers.

Owns: `IsBackedBy`, what each move makes of the two default subscriptions, what a choice for
outgoing calls makes of the one for calls, and who is taken for the account for messages.

Does not own: which accounts a caller sees (see `PhoneAccounts.Proofs.Registry.View`).
-/

namespace PhoneAccounts

/-- The subscription for messages that a move sets. -/
def Move.sms? : Move → Option Int
  | .adjust (.setDefaultSms subscription) => some subscription
  | _ => none

namespace Registry

variable {registry : Registry} {device : Device} {caller : Scope} {effect : Effect}

/-! ## The subscription behind an account -/

/-- The caller knows the subscription behind a handle: it is that of an account that the caller
sees and that a SIM backs. -/
structure IsBackedBy
    (registry : Registry)
    (device : Device)
    (caller : Scope)
    (handle : Option Handle)
    (subscription : Int) :
    Prop where
  account : ∃ account,
    registry.visibleAccount? device caller handle = some account ∧
      account.isSim = true ∧
      device.subscriptions.subscriptionOf account.handle = subscription
  valid : subscription ≠ Subscriptions.invalid

theorem subscriptionOf_eq_iff_isBackedBy
    {handle : Option Handle}
    {subscription : Int}
    (valid : subscription ≠ Subscriptions.invalid) :
    registry.subscriptionOf device caller handle = subscription ↔
      registry.IsBackedBy device caller handle subscription := by
  unfold subscriptionOf
  constructor
  · intro known
    cases visible : registry.visibleAccount? device caller handle with
    | none =>
        rw [visible] at known
        exact absurd known.symm valid
    | some account =>
        simp only [visible] at known
        by_cases isSim : account.isSim = true
        · rw [if_pos isSim] at known
          exact ⟨⟨account, visible, isSim, known⟩, valid⟩
        · rw [if_neg isSim] at known
          exact absurd known.symm valid
  · rintro ⟨⟨account, visible, isSim, assigned⟩, -⟩
    rw [visible]
    exact (if_pos isSim).trans assigned

/-- The number for no subscription is the answer just where none is known. -/
theorem subscriptionOf_eq_invalid_iff {handle : Option Handle} :
    registry.subscriptionOf device caller handle = Subscriptions.invalid ↔
      ∀ subscription, ¬ registry.IsBackedBy device caller handle subscription := by
  constructor
  · intro unknown subscription backed
    have known := (subscriptionOf_eq_iff_isBackedBy backed.valid).mpr backed
    exact backed.valid (known.symm.trans unknown)
  · intro noneBacks
    refine Decidable.byContradiction fun valid => ?_
    exact noneBacks _ ((subscriptionOf_eq_iff_isBackedBy valid).mp rfl)

/-- Of an account that a SIM backs, the caller learns the subscription just if the caller sees
it. -/
theorem subscriptionOf_of_found
    {handle : Handle}
    {account : Account}
    (found : registry.catalog.find? handle = some account)
    (isSim : account.isSim = true) :
    registry.subscriptionOf device caller (some handle) =
      if registry.isVisible device caller account then
        device.subscriptions.subscriptionOf handle
      else Subscriptions.invalid := by
  obtain ⟨-, rfl⟩ := Accounts.mem_and_handle_of_find?_eq_some found
  have looked : registry.visibleAccount? device caller (some account.handle) =
      (some account).filter (registry.isVisible device caller) :=
    congrArg (Option.filter _) found
  rw [subscriptionOf, looked, Option.filter_some]
  by_cases visible : registry.isVisible device caller account = true
  · rw [if_pos visible, if_pos visible]
    exact if_pos isSim
  · rw [if_neg visible, if_neg visible]

/-- A handle that no account has. -/
theorem exists_unknownHandle (registry : Registry) :
    ∃ handle, registry.account? (some handle) = none := by
  -- The ids are finitely many, so an id outside them is made as a free file name is.
  let used := registry.catalog.accounts.map fun account => account.handle.id
  let handle : Handle := ⟨⟨"", ""⟩, "" ++ TemporaryNames.byLength.middle "" "" used ++ "", none⟩
  refine ⟨handle, (Accounts.find?_eq_none_iff handle _).mpr fun listed => ?_⟩
  obtain ⟨account, member, same⟩ := List.mem_map.mp listed
  exact TemporaryNames.byLength.unused "" "" used
    (List.mem_map.mpr ⟨account, member, congrArg Handle.id same⟩)

/-! ## Choosing a SIM for outgoing calls -/

/-- The change chooses, for outgoing calls, an account that can place calls and that a SIM
backs. -/
def choosesSim (registry : Registry) : Change → Bool
  | .setDefaultOutgoing (some handle) =>
      (registry.catalog.find? handle).any fun account =>
        account.has .callProvider && account.isSim
  | _ => false

/-- Such a choice is accepted, and it sets the subscription for calls to what the caller sees of
the SIM. -/
theorem setDefaultOutgoingEffect_of_sim
    {handle : Handle}
    {account : Account}
    (found : registry.catalog.find? handle = some account)
    (capable : account.has .callProvider = true)
    (isSim : account.isSim = true) :
    registry.setDefaultOutgoingEffect device caller (some handle) =
      .ok {
        catalog := { registry.catalog with defaultOutgoing := some handle }
        voice := some (registry.subscriptionOf device caller (some handle))
        event := .defaultOutgoing } := by
  simp only [setDefaultOutgoingEffect, found, capable, isSim, if_true]

/-- No other change sets the subscription for calls. -/
theorem voice_effectOf
    {change : Change}
    (accepted : registry.effectOf device caller change = .ok effect)
    (noSim : registry.choosesSim change = false) :
    effect.voice = none := by
  cases change with
  | register account => rw [(registerEffect_eq_ok accepted).2, Effect.ofAccounts]
  | unregister handle =>
      obtain ⟨account, -, rfl⟩ := unregisterEffect_eq_ok accepted
      rfl
  | clear package scope => rw [(clearEffect_eq_ok accepted).2, Effect.ofAccounts]
  | setEnabled handle enabled =>
      obtain ⟨account, -, -, -, rfl⟩ := setEnabledEffect_eq_ok accepted
      rfl
  | setDefaultOutgoing handle =>
      obtain ⟨known, -, -, voice⟩ := setDefaultOutgoingEffect_eq_ok accepted
      rw [voice]
      cases handle with
      | none => rfl
      | some handle =>
          obtain ⟨account, found, capable⟩ := known handle rfl
          rw [choosesSim, found, Option.any_some, capable, Bool.true_and] at noSim
          rw [account?, Option.bind_some, found, Option.filter_some, noSim]
          rfl
  | setCallManager handle => exact (setCallManagerEffect_eq_ok accepted).2.2.2

/-! ## The account for messages -/

/-- An account is taken for the one for messages if the subscription that was chosen for them is
behind it; where none was chosen, if none is known of it. -/
theorem isSmsAccount_iff {handle : Option Handle} :
    registry.isSmsAccount device caller handle = true ↔
      registry.IsBackedBy device caller handle device.subscriptions.defaultSms ∨
        device.subscriptions.defaultSms = Subscriptions.invalid ∧
          ∀ subscription, ¬ registry.IsBackedBy device caller handle subscription := by
  rw [isSmsAccount, decide_eq_true_eq]
  by_cases chosen : device.subscriptions.defaultSms = Subscriptions.invalid
  · rw [chosen, subscriptionOf_eq_invalid_iff]
    exact ⟨fun noneBacks => .inr ⟨rfl, noneBacks⟩,
      fun either => either.elim (fun backed => absurd rfl backed.valid) And.right⟩
  · rw [subscriptionOf_eq_iff_isBackedBy chosen]
    exact ⟨.inl, fun either => either.elim id fun ⟨unset, _⟩ => absurd unset chosen⟩

end Registry

namespace Session

/-! ## What the moves of a run set -/

/-- What the moves of a run set, in order, if each sets something or nothing. -/
def setAlong
    {Value : Type}
    (sets? : Session → Move → Option Value)
    (session : Session) :
    List Move → List Value
  | [] => []
  | move :: rest => (sets? session move).toList ++ setAlong sets? (session.after move) rest

/-- What each move sets or else leaves as it is, a run leaves as it was set last. -/
theorem makes_of_sets
    {Value : Type}
    (value : Session → Value)
    (sets? : Session → Move → Option Value)
    (step : ∀ session move, value (session.after move) = (sets? session move).getD (value session))
    (session : Session)
    (moves : List Move) :
    value (session.makes moves) = (setAlong sets? session moves).getLastD (value session) := by
  -- What the first move leaves is what the rest starts from, so the session is not fixed.
  induction moves generalizing session with
  | nil => rfl
  | cons move rest inductionHypothesis =>
      rw [makes_cons, inductionHypothesis, step, setAlong]
      cases sets? session move with
      | none => rfl
      | some _ => exact List.getLastD_cons.symm

/-- Where it does not depend on the session what a move sets, it is what the moves set one by
one. -/
theorem setAlong_eq_filterMap
    {Value : Type}
    (sets? : Move → Option Value)
    (session : Session)
    (moves : List Move) :
    setAlong (fun _ => sets?) session moves = moves.filterMap sets? := by
  induction moves generalizing session with
  | nil => rfl
  | cons move rest inductionHypothesis =>
      rw [setAlong, inductionHypothesis]
      cases sets : sets? move with
      | none => exact (List.filterMap_cons_none sets).symm
      | some _ => exact (List.filterMap_cons_some sets).symm

/-! ## The two defaults -/

/-- Apart from an adjustment, a move leaves the subscriptions as they are but for the one for
calls. -/
theorem subscriptions_after
    (session : Session)
    {move : Move}
    (noAdjustment : ∀ adjustment, move ≠ .adjust adjustment) :
    (session.after move).device.subscriptions =
      session.device.subscriptions.withDefaultVoice
        ((session.voice? move).getD session.device.subscriptions.defaultVoice) := by
  obtain ⟨files, device⟩ := session.device_after noAdjustment
  rw [device, Registry.applyVoice_eq]

theorem defaultVoice_after (session : Session) (move : Move) :
    (session.after move).device.subscriptions.defaultVoice =
      (session.voice? move).getD session.device.subscriptions.defaultVoice := by
  by_cases adjusts : ∃ adjustment, move = .adjust adjustment
  · obtain ⟨adjustment, rfl⟩ := adjusts
    cases adjustment <;> rfl
  · rw [subscriptions_after session (not_exists.mp adjusts)]
    rfl

theorem defaultSms_after (session : Session) (move : Move) :
    (session.after move).device.subscriptions.defaultSms =
      move.sms?.getD session.device.subscriptions.defaultSms := by
  cases move with
  | adjust adjustment => cases adjustment <;> rfl
  | _ => rw [subscriptions_after session (by simp)]; rfl

/-! ## The subscription for calls -/

/-- A change that chooses no SIM leaves the subscriptions as they are, accepted or refused. -/
theorem subscriptions_after_of_not_choosesSim
    (session : Session)
    (caller : Scope)
    {change : Change}
    (noSim : session.registry.choosesSim change = false) :
    (session.after (.change caller change)).device.subscriptions =
      session.device.subscriptions := by
  have unset : session.voice? (.change caller change) = none := by
    rw [voice?]
    cases decided : session.registry.effectOf session.device caller change with
    | error refusal => rfl
    | ok effect => exact Registry.voice_effectOf decided noSim
  rw [subscriptions_after session (by simp), unset]
  rfl

/-- The subscription for calls follows the SIM that is chosen for outgoing calls, as far as whoever
chooses it sees it.  The choice is carried out in any case, and its event is fired unless the
catalog cannot be written out; for a SIM that is hidden, no subscription is left for calls, so the
one for calls is that of the SIM just where the caller sees the SIM or nothing is assigned to it.

No other change touches the subscriptions, accepted or refused; and after any run, the subscription
for calls is the last that such a choice set. -/
theorem voice_followsVisibleSim (session : Session) (caller : Scope) :
    (∀ handle account,
        session.registry.catalog.find? handle = some account →
        account.has .callProvider = true →
        account.isSim = true →
          let choice := Change.setDefaultOutgoing (some handle)
          let later := session.after (.change caller choice)
          (∀ fire, session.change fire caller choice =
              if later.registry.isWritable later.device then
                (.outcome .applied, fire .defaultOutgoing later)
              else (.stopped .longInteger, later)) ∧
            later.registry.catalog =
              { session.registry.catalog with defaultOutgoing := some handle } ∧
            later.device.subscriptions =
              session.device.subscriptions.withDefaultVoice
                (if session.registry.isVisible session.device caller account then
                  session.device.subscriptions.subscriptionOf handle
                else Subscriptions.invalid) ∧
            (later.device.subscriptions.defaultVoice =
                session.device.subscriptions.subscriptionOf handle ↔
              session.registry.isVisible session.device caller account = true ∨
                session.device.subscriptions.subscriptionOf handle = Subscriptions.invalid)) ∧
      (∀ change,
        session.registry.choosesSim change = false →
          (session.after (.change caller change)).device.subscriptions =
            session.device.subscriptions) ∧
      ∀ moves,
        (session.makes moves).device.subscriptions.defaultVoice =
          (setAlong voice? session moves).getLastD
            session.device.subscriptions.defaultVoice := by
  refine ⟨?_, fun change => session.subscriptions_after_of_not_choosesSim caller,
    makes_of_sets (fun session => session.device.subscriptions.defaultVoice) voice?
      defaultVoice_after session⟩
  intro handle account found capable isSim choice later
  have accepted : session.registry.effectOf session.device caller choice = _ :=
    Registry.setDefaultOutgoingEffect_of_sim found capable isSim
  have carried : later = _ := carriedOut_of_accepted accepted
  have voice : later.device.subscriptions =
      session.device.subscriptions.withDefaultVoice
        (if session.registry.isVisible session.device caller account then
          session.device.subscriptions.subscriptionOf handle
        else Subscriptions.invalid) := by
    rw [← Registry.subscriptionOf_of_found found isSim]
    exact congrArg (fun session => session.device.subscriptions) carried
  refine ⟨fun fire => ?_, congrArg (fun session => session.registry.catalog) carried, voice, ?_⟩
  · rw [show later.registry.isWritable later.device = _ from isWritable_carriedOut accepted]
    exact change_of_accepted accepted fire
  · rw [voice]
    show (if session.registry.isVisible session.device caller account then
        session.device.subscriptions.subscriptionOf handle else Subscriptions.invalid) = _ ↔ _
    by_cases visible : session.registry.isVisible session.device caller account = true
    · rw [if_pos visible]
      exact iff_of_true rfl (.inl visible)
    · rw [if_neg visible]
      exact ⟨fun unset => .inr unset.symm, fun either => (either.resolve_left visible).symm⟩

/-! ## The account for messages -/

/-- Whatever is taken for the account for messages is one that the caller sees and that a SIM backs,
with the subscription that was chosen for messages. -/
def BacksSmsAccounts (session : Session) : Prop :=
  ∀ caller handle,
    session.registry.isSmsAccount session.device caller (some handle) = true →
      session.registry.IsBackedBy session.device caller (some handle)
        session.device.subscriptions.defaultSms

theorem backsSmsAccounts_iff (session : Session) :
    session.BacksSmsAccounts ↔
      session.device.subscriptions.defaultSms ≠ Subscriptions.invalid := by
  constructor
  · intro backs
    -- Nothing is known of a handle that no account has, so it is backed only by what is chosen.
    obtain ⟨handle, unknown⟩ := session.registry.exists_unknownHandle
    have hidden : session.registry.visibleAccount? session.device Scope.owner (some handle) =
        none := by
      rw [Registry.visibleAccount?, unknown]
      rfl
    intro unset
    have taken : session.registry.isSmsAccount session.device Scope.owner (some handle) = true := by
      refine Registry.isSmsAccount_iff.mpr (.inr ⟨unset, fun subscription backed => ?_⟩)
      obtain ⟨account, visible, -⟩ := backed.account
      exact absurd (hidden.symm.trans visible) (by simp)
    exact (backs Scope.owner handle taken).valid unset
  · intro chosen caller handle taken
    rcases Registry.isSmsAccount_iff.mp taken with backed | ⟨unset, -⟩
    · exact backed
    · exact absurd unset chosen

/-- An account is taken for the one for messages just if the subscription that was chosen for them
is behind it, or none was chosen and none is known of it.  So what is taken for it is backed by the
chosen subscription just as long as the last that was chosen is one. -/
theorem smsAccounts_areBacked_iff (session : Session) (moves : List Move) :
    let later := session.makes moves
    (∀ caller handle,
        later.registry.isSmsAccount later.device caller handle = true ↔
          later.registry.IsBackedBy later.device caller handle
              later.device.subscriptions.defaultSms ∨
            later.device.subscriptions.defaultSms = Subscriptions.invalid ∧
              ∀ subscription,
                ¬ later.registry.IsBackedBy later.device caller handle subscription) ∧
      (later.BacksSmsAccounts ↔
        (moves.filterMap Move.sms?).getLastD session.device.subscriptions.defaultSms ≠
          Subscriptions.invalid) := by
  intro later
  refine ⟨fun caller handle => Registry.isSmsAccount_iff, ?_⟩
  have last := makes_of_sets (fun session => session.device.subscriptions.defaultSms)
    (fun _ => Move.sms?) defaultSms_after session moves
  rw [setAlong_eq_filterMap] at last
  rw [backsSmsAccounts_iff, last]

/-! ## Samples -/

/-- An account that can place calls and that a SIM backs. -/
def sampleSim (scope : Scope) : Account where
  handle := ⟨⟨"com.calls", "Service"⟩, "sim", some scope⟩
  capabilities := Registry.simMask
  schemes := ["tel"]

/-- The session in which the owner has a SIM, with a subscription. -/
def sampleSimSession : Session :=
  sampleSession.makes
    [.change Scope.owner (.register (sampleSim Scope.owner)),
      .adjust (.assignSubscription (sampleSim Scope.owner).handle 3)]

/-- The owner chooses the SIM, and its subscription becomes the one for calls; that stays so when
another account is chosen. -/
theorem sampleSimSession_voice :
    let handle := (sampleSim Scope.owner).handle
    let later := sampleSimSession.after (.change Scope.owner (.setDefaultOutgoing (some handle)))
    (later.registry.catalog.defaultOutgoing = some handle ∧
        later.device.subscriptions.defaultVoice = 3) ∧
      (later.after (.change Scope.owner (.setDefaultOutgoing none))).device.subscriptions =
        later.device.subscriptions := by
  intro handle later
  obtain ⟨follows, -, -⟩ := voice_followsVisibleSim sampleSimSession Scope.owner
  obtain ⟨-, catalog, subscriptions, -⟩ := follows handle ((sampleSim Scope.owner).withEnabled true)
    (by decide +kernel) (by decide +kernel) (by decide +kernel)
  obtain ⟨-, others, -⟩ := voice_followsVisibleSim later Scope.owner
  refine ⟨⟨congrArg Catalog.defaultOutgoing catalog, ?_⟩, others _ rfl⟩
  rw [subscriptions]
  decide +kernel

/-- A profile chooses the SIM of the owner, which it does not see: the choice is made, and no
subscription is left for calls. -/
theorem hiddenSim_hasNoVoice :
    let handle := (sampleSim Scope.owner).handle
    let choice := Change.setDefaultOutgoing (some handle)
    let later := sampleSimSession.after (.change ⟨10⟩ choice)
    Reachable sampleSimSession ∧
      (sampleSimSession.registry.account? (some handle)).any
          (fun account => account.has .callProvider && account.isSim) = true ∧
      (sampleSimSession.change (fun _ session => session) ⟨10⟩ choice).1 = .outcome .applied ∧
      later.registry.catalog.defaultOutgoing = some handle ∧
      later.device.subscriptions.subscriptionOf handle = 3 ∧
      later.device.subscriptions.defaultVoice = Subscriptions.invalid := by
  intro handle choice later
  have reached : Reachable sampleSimSession := (Reachable.start start_sampleDevice).leads ⟨_, rfl⟩
  exact ⟨reached, by decide +kernel⟩

/-- Before a subscription was chosen for messages, an account that is not there is taken for the one
for messages. -/
theorem unknownAccount_isSmsAccount :
    let handle := (sampleAccount Scope.owner).handle
    Reachable sampleSession ∧
      sampleSession.registry.account? (some handle) = none ∧
      sampleSession.registry.isSmsAccount sampleSession.device Scope.owner (some handle) = true ∧
      ¬ sampleSession.BacksSmsAccounts := by
  intro handle
  refine ⟨.start start_sampleDevice, rfl, by decide +kernel, ?_⟩
  exact fun backs => (backsSmsAccounts_iff sampleSession).mp backs rfl

end Session

end PhoneAccounts

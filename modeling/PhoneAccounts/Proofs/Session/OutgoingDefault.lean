import PhoneAccounts.Proofs.Device.ScopeDirectory
import PhoneAccounts.Proofs.Registry.Choices
import PhoneAccounts.Proofs.Session.Revocation

/-!
Contract: when calls can be placed through the default for outgoing calls.

A query lists an account as a way to place calls only if it has the capability and its component
resolves.  The default that was chosen is not asked for either of them again: the capability is
checked when it is chosen, whether it resolves is never checked.  So the answer can always be used
until a move spoils the default, and four kinds of moves do.

Owns: `IsUsable`, `HasUsableDefault`, the moves that spoil the default, and what is answered with
and without them.

Does not own: which choices count (see `PhoneAccounts.Proofs.Registry.Choices`).
-/

namespace PhoneAccounts

/-- Calls can be placed through the account: it has the capability, and a service answers for it. -/
structure Account.IsUsable (installs : Installs) (account : Account) : Prop where
  capable : account.has .callProvider = true
  resolves : installs.resolve account.handle.component account.handle.scope ≠ []

instance (installs : Installs) (account : Account) : Decidable (account.IsUsable installs) :=
  decidable_of_iff
    (account.has .callProvider = true ∧
      installs.resolve account.handle.component account.handle.scope ≠ [])
    ⟨fun ⟨capable, resolves⟩ => ⟨capable, resolves⟩,
      fun usable => ⟨usable.capable, usable.resolves⟩⟩

theorem Account.isUsable_withEnabled_iff
    {installs : Installs}
    {account : Account}
    {enabled : Bool} :
    (account.withEnabled enabled).IsUsable installs ↔ account.IsUsable installs :=
  ⟨fun usable => ⟨usable.capable, usable.resolves⟩,
    fun usable => ⟨usable.capable, usable.resolves⟩⟩

/-- The account of the default, if it is there, can be used. -/
def Catalog.HasUsableDefault (installs : Installs) (catalog : Catalog) : Prop :=
  ∀ account ∈ catalog.accounts,
    catalog.defaultOutgoing = some account.handle → account.IsUsable installs

instance (installs : Installs) (catalog : Catalog) :
    Decidable (catalog.HasUsableDefault installs) :=
  inferInstanceAs
    (Decidable (∀ account ∈ catalog.accounts,
      catalog.defaultOutgoing = some account.handle → account.IsUsable installs))

/-- The change, if it is accepted, leaves a default that cannot be used: it registers the account of
the default again without the capability, or it chooses an account for which no service answers. -/
def Change.spoilsDefault (catalog : Catalog) (installs : Installs) : Change → Bool
  | .register account =>
      catalog.defaultOutgoing = some account.handle && !account.has .callProvider
  | .setDefaultOutgoing (some handle) => installs.resolve handle.component handle.scope = []
  | _ => false

/-! ## Installed services -/

theorem Installs.resolve_ne_nil_iff
    {installs : Installs}
    {component : Component}
    {scope : Option Scope} :
    installs.resolve component scope ≠ [] ↔
      ∃ installed, (component, installed) ∈ installs.entries.map Prod.fst ∧
        answers installed scope = true := by
  rw [resolve, Ne, List.map_eq_nil_iff, List.filter_eq_nil_iff]
  simp only [decide_eq_true_eq, not_forall, not_not, exists_prop, List.mem_map]
  constructor
  · rintro ⟨entry, member, rfl, answers⟩
    exact ⟨entry.1.2, ⟨entry, member, rfl⟩, answers⟩
  · rintro ⟨installed, ⟨entry, member, key⟩, answers⟩
    refine ⟨entry, member, congrArg Prod.fst key, ?_⟩
    rw [key]
    exact answers

/-- What resolves goes on doing so when something is installed. -/
theorem Installs.resolve_install_ne_nil
    {installs : Installs}
    {component : Component}
    {scope : Option Scope}
    (resolves : installs.resolve component scope ≠ [])
    (new : Component)
    (newScope : Option Scope)
    (permission : Option String) :
    (installs.install new newScope permission).resolve component scope ≠ [] := by
  rw [resolve_ne_nil_iff] at resolves ⊢
  obtain ⟨installed, member, answers⟩ := resolves
  exact ⟨installed, Keyed.mem_keys_put_iff.mpr (.inr member), answers⟩

namespace Registry

variable {registry : Registry} {device : Device} {caller : Scope} {effect : Effect}

/-! ## Answers -/

/-- The account for outgoing calls with a scheme is one that the caller sees and that supports the
scheme; it can be used, unless it is the chosen one. -/
theorem outgoingFor?_cases
    (unique : Accounts.Unique registry.catalog.accounts)
    {scheme : String}
    {handle : Handle}
    (answered : registry.outgoingFor? device caller (some scheme) = some handle) :
    ∃ account,
      registry.visibleAccount? device caller (some handle) = some account ∧
        account.supports scheme = true ∧
        (registry.CountsAsDefault device caller scheme handle ∨
          account.IsUsable device.installs) := by
  rcases outgoingFor?_eq_some_iff.mp answered with counts | ⟨-, only⟩
  · obtain ⟨account, visible, supports⟩ := counts.serves
    exact ⟨account, visible, supports, .inl counts⟩
  · have listed : handle ∈ registry.callCapableHandles device caller (some scheme) false := by
      rw [only]
      exact List.mem_singleton_self handle
    obtain ⟨account, visible, asks, resolves⟩ := (mem_queryHandles_iff unique).mp listed
    have supports := (Account.supports_iff account scheme).mpr (asks.supports scheme rfl)
    have someBit : Capability.callProvider.mask ≠ 0 := by decide
    have capable : account.has .callProvider = true :=
      (Mask.covers_iff _ _).mpr (asks.capable.resolve_left someBit)
    rw [← (mem_and_handle_of_visibleAccount? visible).2, Device.resolves_iff] at resolves
    exact ⟨account, visible, supports, .inr ⟨capable, resolves⟩⟩

/-! ## Changes -/

theorem resolve_ne_nil_of_requiresBind
    {handle : Handle}
    (permitted : requiresBind device handle = true) :
    device.installs.resolve handle.component handle.scope ≠ [] := by
  rw [requiresBind, Bool.and_eq_true, Bool.not_eq_true', List.isEmpty_eq_false_iff] at permitted
  exact permitted.1

/-- A registration leaves a default that can be used unless it takes the capability from it: whoever
registers an account has a service that answers. -/
theorem hasUsableDefault_register_iff
    (usable : registry.catalog.HasUsableDefault device.installs)
    {account : Account}
    (accepted : registry.registerEffect device account = .ok effect) :
    effect.catalog.HasUsableDefault device.installs ↔
      (Change.register account).spoilsDefault registry.catalog device.installs = false := by
  obtain ⟨permitted, rfl⟩ := registerEffect_eq_ok accepted
  rw [Change.spoilsDefault, Bool.and_eq_false_imp, decide_eq_true_eq, Bool.not_eq_false']
  constructor
  · intro later chosen
    have stored : Accounts.find? account.handle
        (Accounts.put (storedAs registry.catalog account) registry.catalog.accounts) =
          some (storedAs registry.catalog account) := by
      rw [Accounts.find?_put]
      exact if_pos rfl
    exact (later _ (Accounts.mem_and_handle_of_find?_eq_some stored).1 chosen).capable
  · intro kept other member chosen
    rcases Accounts.eq_or_mem_of_mem_put member with rfl | before
    · exact ⟨kept chosen, resolve_ne_nil_of_requiresBind permitted⟩
    · exact usable other before chosen

/-- A choice leaves a default that can be used unless no service answers for it: what is chosen has
the capability. -/
theorem hasUsableDefault_setDefaultOutgoing_iff
    (unique : Accounts.Unique registry.catalog.accounts)
    {handle : Option Handle}
    (accepted : registry.setDefaultOutgoingEffect device caller handle = .ok effect) :
    effect.catalog.HasUsableDefault device.installs ↔
      (Change.setDefaultOutgoing handle).spoilsDefault registry.catalog device.installs =
        false := by
  obtain ⟨known, catalog, -⟩ := setDefaultOutgoingEffect_eq_ok accepted
  rw [catalog]
  cases handle with
  | none => exact iff_of_true (fun account member chosen => absurd chosen (by simp)) rfl
  | some handle =>
      obtain ⟨account, found, capable⟩ := known handle rfl
      obtain ⟨listed, rfl⟩ := Accounts.mem_and_handle_of_find?_eq_some found
      rw [Change.spoilsDefault, decide_eq_false_iff_not]
      constructor
      · intro later
        exact (later account listed rfl).resolves
      · intro resolves other member chosen
        have same : Accounts.find? account.handle registry.catalog.accounts = some other := by
          rw [Option.some.inj chosen]
          exact Accounts.find?_handle_of_mem unique member
        obtain rfl := Option.some.inj (found.symm.trans same)
        exact ⟨capable, resolves⟩

/-- An accepted change leaves a default that can be used just if it does not spoil it. -/
theorem hasUsableDefault_effectOf_iff
    (unique : Accounts.Unique registry.catalog.accounts)
    (usable : registry.catalog.HasUsableDefault device.installs)
    {change : Change}
    (accepted : registry.effectOf device caller change = .ok effect) :
    effect.catalog.HasUsableDefault device.installs ↔
      change.spoilsDefault registry.catalog device.installs = false := by
  have others
      (onAccounts : change.isOnAccounts = true)
      (noRegistration : ∀ account, change ≠ .register account) :
      effect.catalog.HasUsableDefault device.installs := by
    intro account member chosen
    rw [(choices_effectOf onAccounts accepted).1] at chosen
    rcases mem_effectOf accepted member with
      before | ⟨registered, registers, -⟩ | ⟨switched, before, enabled, -, rfl⟩
    · exact usable account before chosen
    · exact absurd registers (noRegistration registered)
    · exact Account.isUsable_withEnabled_iff.mpr (usable switched before chosen)
  cases change with
  | register account => exact hasUsableDefault_register_iff usable accepted
  | unregister handle => exact iff_of_true (others rfl (by simp)) rfl
  | clear package scope => exact iff_of_true (others rfl (by simp)) rfl
  | setEnabled handle enabled => exact iff_of_true (others rfl (by simp)) rfl
  | setDefaultOutgoing handle => exact hasUsableDefault_setDefaultOutgoing_iff unique accepted
  | setCallManager handle =>
      rw [(setCallManagerEffect_eq_ok accepted).2.1]
      exact iff_of_true usable rfl

end Registry

namespace Session

variable {session : Session}

/-- The account of the default, if it is there, can be used. -/
abbrev HasUsableDefault (session : Session) : Prop :=
  session.registry.catalog.HasUsableDefault session.device.installs

/-- The move leaves a default that cannot be used: it is a change that does so, it takes away the
last service of the default, or it is a start that finds such a default. -/
def spoilsDefault (session : Session) : Move → Bool
  | .change caller change =>
      (session.registry.effectOf session.device caller change).toBool &&
        change.spoilsDefault session.registry.catalog session.device.installs
  | .adjust (.uninstall component scope) =>
      session.registry.catalog.accounts.any fun account =>
        session.registry.catalog.defaultOutgoing = some account.handle &&
          (session.device.installs.uninstall component scope).resolve
            account.handle.component account.handle.scope = []
  | .restart processScope =>
      match session.foundForStart? processScope with
      | some loaded =>
          !decide ((Startup.ofLoaded session.device.directory loaded).1.HasUsableDefault
            session.device.installs)
      | none => false
  | _ => false

/-- Every answer to who places calls with a scheme is an account that the caller sees, that supports
the scheme, and that can be used. -/
def AnswersUsably (session : Session) : Prop :=
  ∀ caller scheme handle,
    session.registry.outgoingFor? session.device caller (some scheme) = some handle →
      ∃ account,
        session.registry.visibleAccount? session.device caller (some handle) = some account ∧
          account.supports scheme = true ∧
          account.IsUsable session.device.installs

/-! ## Moves -/

theorem hasUsableDefault_carriedOut_iff
    (inUse : session.registry.catalog.InUse)
    (usable : session.HasUsableDefault)
    (caller : Scope)
    (change : Change) :
    (session.after (.change caller change)).HasUsableDefault ↔
      session.spoilsDefault (.change caller change) = false := by
  rw [HasUsableDefault, session.installs_after (by simp), after, spoilsDefault]
  cases decided : session.registry.effectOf session.device caller change with
  | error refusal =>
      rw [carriedOut_of_refused decided]
      exact iff_of_true usable rfl
  | ok effect =>
      rw [carriedOut_of_accepted decided]
      exact Registry.hasUsableDefault_effectOf_iff inUse.unique usable decided

theorem hasUsableDefault_adjust_iff
    (usable : session.HasUsableDefault)
    (adjustment : Adjustment) :
    (session.adjust adjustment).HasUsableDefault ↔
      session.spoilsDefault (.adjust adjustment) = false := by
  rw [HasUsableDefault, catalog_adjust]
  cases adjustment with
  | install component scope permission =>
      refine iff_of_true (fun account member chosen => ?_) rfl
      obtain ⟨capable, resolves⟩ := usable account member chosen
      exact ⟨capable, Installs.resolve_install_ne_nil resolves component scope permission⟩
  | uninstall component scope =>
      rw [spoilsDefault, List.any_eq_false]
      simp only [Bool.and_eq_true, decide_eq_true_eq, not_and]
      constructor
      · intro later account member chosen
        exact (later account member chosen).resolves
      · intro kept account member chosen
        exact ⟨(usable account member chosen).capable, kept account member chosen⟩
  | _ => exact iff_of_true usable rfl

theorem hasUsableDefault_restarted_iff
    (usable : session.HasUsableDefault)
    (processScope : Scope) :
    (session.after (.restart processScope)).HasUsableDefault ↔
      session.spoilsDefault (.restart processScope) = false := by
  rw [HasUsableDefault, session.installs_after (by simp), after, catalog_restarted, spoilsDefault]
  cases session.foundForStart? processScope with
  | none => exact iff_of_true usable rfl
  | some loaded => rw [Bool.not_eq_false', decide_eq_true_eq]

/-- A move leaves a default that can be used just if it does not spoil it. -/
theorem hasUsableDefault_after_iff
    (inUse : session.registry.catalog.InUse)
    (usable : session.HasUsableDefault)
    (move : Move) :
    (session.after move).HasUsableDefault ↔ session.spoilsDefault move = false := by
  cases move with
  | change caller change => exact hasUsableDefault_carriedOut_iff inUse usable caller change
  | adjust adjustment => exact hasUsableDefault_adjust_iff usable adjustment
  | writeFile content =>
      rw [HasUsableDefault, session.installs_after (by simp), after, registry_writeFile]
      exact iff_of_true usable rfl
  | restart processScope => exact hasUsableDefault_restarted_iff usable processScope
  | log lines => exact iff_of_true usable rfl

/-- A default that can be used stays so, however the session goes on without a move that spoils
it. -/
theorem hasUsableDefault_makes
    (inUse : session.registry.catalog.InUse)
    (usable : session.HasUsableDefault)
    {moves : List Move}
    (kept : Along (fun session move => session.spoilsDefault move = false) session moves) :
    (session.makes moves).HasUsableDefault :=
  kept.keeps_of_inUse HasUsableDefault
    (fun _ move inUse usable met => (hasUsableDefault_after_iff inUse usable move).mpr met)
    inUse usable

/-! ## Answers -/

/-- One answer is enough that cannot be used. -/
theorem not_answersUsably_of_answered
    {caller : Scope}
    {scheme : String}
    {handle : Handle}
    (answered :
      session.registry.outgoingFor? session.device caller (some scheme) = some handle)
    {account : Account}
    (visible :
      session.registry.visibleAccount? session.device caller (some handle) = some account)
    (useless : ¬ account.IsUsable session.device.installs) :
    ¬ session.AnswersUsably := by
  intro answers
  obtain ⟨other, seen, -, usable⟩ := answers caller scheme handle answered
  obtain rfl := Option.some.inj (visible.symm.trans seen)
  exact useless usable

/-- The answers can be used just where every default that counts can be used. -/
theorem answersUsably_iff (unique : Accounts.Unique session.registry.catalog.accounts) :
    session.AnswersUsably ↔
      ∀ caller scheme handle,
        session.registry.CountsAsDefault session.device caller scheme handle →
          ∀ account,
            session.registry.visibleAccount? session.device caller (some handle) = some account →
              account.IsUsable session.device.installs := by
  constructor
  · intro answers caller scheme handle counts account visible
    by_contra useless
    have answered := Registry.outgoingFor?_eq_some_iff.mpr (.inl counts)
    exact not_answersUsably_of_answered answered visible useless answers
  · intro counted caller scheme handle answered
    obtain ⟨account, visible, supports, counts | usable⟩ :=
      Registry.outgoingFor?_cases unique answered
    · exact ⟨account, visible, supports, counted caller scheme handle counts account visible⟩
    · exact ⟨account, visible, supports, usable⟩

theorem HasUsableDefault.answersUsably
    (usable : session.HasUsableDefault)
    (unique : Accounts.Unique session.registry.catalog.accounts) :
    session.AnswersUsably := by
  rw [answersUsably_iff unique]
  intro caller scheme handle counts account visible
  obtain ⟨member, rfl⟩ := Registry.mem_and_handle_of_visibleAccount? visible
  exact usable account member counts.chosen

/-- In every session that can come about, who places calls with a scheme is an account that the
caller sees and that supports the scheme, and it can be used unless it is the chosen one.  So all
answers can be used just where every choice that counts can be.

Once the default can be used, a move keeps it so just if it does not spoil it; and as long as none
does, all answers can be used. -/
theorem answersUsably_unless_spoiled (reached : Reachable session) :
    (∀ caller scheme handle,
        session.registry.outgoingFor? session.device caller (some scheme) = some handle →
          ∃ account,
            session.registry.visibleAccount? session.device caller (some handle) = some account ∧
              account.supports scheme = true ∧
              (session.registry.catalog.defaultOutgoing ≠ some handle →
                account.IsUsable session.device.installs)) ∧
      (session.AnswersUsably ↔
        ∀ caller scheme handle,
          session.registry.CountsAsDefault session.device caller scheme handle →
            ∀ account,
              session.registry.visibleAccount? session.device caller (some handle) =
                  some account →
                account.IsUsable session.device.installs) ∧
      (session.HasUsableDefault →
        (∀ move, (session.after move).HasUsableDefault ↔ session.spoilsDefault move = false) ∧
          ∀ moves,
            Along (fun session move => session.spoilsDefault move = false) session moves →
              (session.makes moves).AnswersUsably) := by
  refine ⟨?_, answersUsably_iff reached.inUse.unique, ?_⟩
  · intro caller scheme handle answered
    obtain ⟨account, visible, supports, counts | usable⟩ :=
      Registry.outgoingFor?_cases reached.inUse.unique answered
    · exact ⟨account, visible, supports, fun other => absurd counts.chosen other⟩
    · exact ⟨account, visible, supports, fun _ => usable⟩
  · intro usable
    refine ⟨hasUsableDefault_after_iff reached.inUse usable, ?_⟩
    intro moves kept
    have later : Reachable (session.makes moves) := reached.leads ⟨moves, rfl⟩
    exact (hasUsableDefault_makes reached.inUse usable kept).answersUsably later.inUse.unique

/-! ## Samples -/

/-- A service is installed for the profile and taken back, the chosen account is registered again
with another scheme, and the account of the profile is registered. -/
def sampleKeptMoves : List Move :=
  [.adjust (.install ⟨"com.calls", "Service"⟩ (some ⟨10⟩) none),
    .adjust (.uninstall ⟨"com.calls", "Service"⟩ (some ⟨10⟩)),
    .change Scope.owner (.register { sampleAccount Scope.owner with schemes := ["sip", "tel"] }),
    .change ⟨10⟩ (.register (sampleAccount ⟨10⟩))]

/-- The chosen account, which was never switched on, is the answer for the new scheme, and all
answers can be used. -/
theorem sampleKeptMoves_answerUsably :
    let later := sampleChosenSession.makes sampleKeptMoves
    sampleChosenSession.HasUsableDefault ∧
      later.registry.outgoingFor? later.device Scope.owner (some "sip") =
        some (sampleAccount Scope.owner).handle ∧
      later.AnswersUsably := by
  intro later
  have reached : Reachable sampleChosenSession :=
    (Reachable.start start_sampleDevice).leads ⟨_, rfl⟩
  have usable : sampleChosenSession.HasUsableDefault := by decide +kernel
  have kept : Along (fun session move => session.spoilsDefault move = false)
      sampleChosenSession sampleKeptMoves := by
    decide +kernel
  obtain ⟨-, -, goesOn⟩ := answersUsably_unless_spoiled reached
  exact ⟨usable, by decide +kernel, (goesOn usable).2 sampleKeptMoves kept⟩

/-- The chosen account stays the answer when its service is taken away, and when it is registered
again without the capability to place calls. -/
theorem spoiledDefault_isAnswered :
    let handle := (sampleAccount Scope.owner).handle
    let uninstalled := sampleChosenSession.after
      (.adjust (.uninstall ⟨"com.calls", "Service"⟩ none))
    let registered := sampleChosenSession.after
      (.change Scope.owner (.register { sampleAccount Scope.owner with capabilities := 0 }))
    (Reachable uninstalled ∧
        uninstalled.registry.outgoingFor? uninstalled.device Scope.owner (some "tel") =
          some handle ∧
        uninstalled.device.installs.resolve handle.component handle.scope = [] ∧
        ¬ uninstalled.AnswersUsably) ∧
      Reachable registered ∧
        registered.registry.outgoingFor? registered.device Scope.owner (some "tel") =
          some handle ∧
        (registered.registry.account? (some handle)).any (·.has .callProvider) = false ∧
        ¬ registered.AnswersUsably := by
  intro handle uninstalled registered
  have reached : Reachable sampleChosenSession :=
    (Reachable.start start_sampleDevice).leads ⟨_, rfl⟩
  have first : uninstalled.registry.outgoingFor? uninstalled.device Scope.owner (some "tel") =
      some handle := by decide +kernel
  have second : registered.registry.outgoingFor? registered.device Scope.owner (some "tel") =
      some handle := by decide +kernel
  have shown : uninstalled.registry.visibleAccount? uninstalled.device Scope.owner (some handle) =
      some (sampleAccount Scope.owner) := by decide +kernel
  have incapable : registered.registry.visibleAccount? registered.device Scope.owner (some handle) =
      some { sampleAccount Scope.owner with capabilities := 0 } := by decide +kernel
  exact ⟨⟨reached.move _, first, by decide +kernel,
      not_answersUsably_of_answered first shown (by decide +kernel)⟩,
    reached.move _, second, by decide +kernel,
      not_answersUsably_of_answered second incapable (by decide +kernel)⟩

end Session

end PhoneAccounts

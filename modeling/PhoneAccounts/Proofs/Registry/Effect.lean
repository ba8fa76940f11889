import PhoneAccounts.Proofs.Catalog.Entries
import PhoneAccounts.Proofs.StateFile.Saving
import PhoneAccounts.Registry.Change

/-!
Contract: what is known of a change that has an effect.

For each of the six changes, the conditions under which it is accepted and the effect that it
then has.

Owns: one inversion for each change, what carrying out touches, where the accounts and the
choices after a change come from, and what every effect leaves alone.

Does not own: the refusals.
-/

namespace PhoneAccounts.Registry

variable {registry : Registry} {device : Device} {caller : Scope} {effect : Effect}

/-- An account that a handle finds is the one that its own handle finds. -/
theorem account?_eq_some
    {handle : Option Handle}
    {account : Account}
    (found : registry.account? handle = some account) :
    handle = some account.handle ∧
      Accounts.find? account.handle registry.catalog.accounts = some account := by
  cases handle with
  | none => exact absurd found (by simp [account?])
  | some handle =>
      have named : Accounts.find? handle registry.catalog.accounts = some account := found
      have same := (Accounts.mem_and_handle_of_find?_eq_some named).2
      rw [same]
      exact ⟨rfl, named⟩

/-! ## The six changes -/

theorem registerEffect_eq_ok
    {account : Account}
    (accepted : registry.registerEffect device account = .ok effect) :
    requiresBind device account.handle = true ∧
      effect = .ofAccounts registry.catalog
        (Accounts.put (storedAs registry.catalog account) registry.catalog.accounts) := by
  unfold registerEffect at accepted
  by_cases permitted : requiresBind device account.handle = true
  · rw [if_pos permitted, Except.ok.injEq] at accepted
    exact ⟨permitted, accepted.symm⟩
  · rw [if_neg permitted] at accepted
    exact absurd accepted (by simp)

theorem unregisterEffect_eq_ok
    {handle : Option Handle}
    (accepted : registry.unregisterEffect handle = .ok effect) :
    ∃ account,
      registry.account? handle = some account ∧
        effect = .ofAccounts registry.catalog
          (Accounts.drop account.handle registry.catalog.accounts) := by
  unfold unregisterEffect at accepted
  cases found : registry.account? handle with
  | none =>
      rw [found] at accepted
      exact absurd accepted (by simp)
  | some account =>
      rw [found, Except.ok.injEq] at accepted
      exact ⟨account, rfl, accepted.symm⟩

theorem clearEffect_eq_ok
    {package : String}
    {scope : Option Scope}
    (accepted : registry.clearEffect package scope = .ok effect) :
    registry.catalog.accounts.any (Accounts.isOwnedBy package scope) = true ∧
      effect = .ofAccounts registry.catalog
        (Accounts.clear package scope registry.catalog.accounts) := by
  unfold clearEffect at accepted
  by_cases owned : registry.catalog.accounts.any (Accounts.isOwnedBy package scope) = true
  · rw [if_pos owned, Except.ok.injEq] at accepted
    exact ⟨owned, accepted.symm⟩
  · rw [if_neg owned] at accepted
    exact absurd accepted (by simp)

theorem setEnabledEffect_eq_ok
    {handle : Option Handle}
    {enabled : Bool}
    (accepted : registry.setEnabledEffect handle enabled = .ok effect) :
    ∃ account,
      registry.account? handle = some account ∧
        account.isSim = false ∧
        account.enabled ≠ enabled ∧
        effect = .ofAccounts registry.catalog
          (Accounts.put (account.withEnabled enabled) registry.catalog.accounts) := by
  unfold setEnabledEffect at accepted
  cases found : registry.account? handle with
  | none =>
      rw [found] at accepted
      exact absurd accepted (by simp)
  | some account =>
      simp only [found] at accepted
      by_cases sim : account.isSim = true
      · rw [if_pos sim] at accepted
        exact absurd accepted (by simp)
      · rw [if_neg sim] at accepted
        by_cases switched : account.enabled = enabled
        · rw [if_pos switched] at accepted
          exact absurd accepted (by simp)
        · rw [if_neg switched, Except.ok.injEq] at accepted
          exact ⟨account, rfl, by simpa using sim, switched, accepted.symm⟩

theorem setDefaultOutgoingEffect_eq_ok
    {handle : Option Handle}
    (accepted : registry.setDefaultOutgoingEffect device caller handle = .ok effect) :
    (∀ chosen ∈ handle, ∃ account,
        registry.catalog.find? chosen = some account ∧ account.has .callProvider = true) ∧
      effect.catalog = { registry.catalog with defaultOutgoing := handle } ∧
      effect.event = .defaultOutgoing ∧
      effect.voice = ((registry.account? handle).filter Account.isSim).map fun _ =>
        registry.subscriptionOf device caller handle := by
  unfold setDefaultOutgoingEffect at accepted
  cases handle with
  | none =>
      simp only [Except.ok.injEq] at accepted
      subst accepted
      exact ⟨by simp, rfl, rfl, rfl⟩
  | some handle =>
      cases found : registry.catalog.find? handle with
      | none =>
          simp only [found] at accepted
          exact absurd accepted (by simp)
      | some account =>
          simp only [found] at accepted
          by_cases capable : account.has .callProvider = true
          · rw [if_pos capable, Except.ok.injEq] at accepted
            subst accepted
            refine ⟨?_, rfl, rfl, ?_⟩
            · intro chosen isChosen
              obtain rfl := Option.some.inj isChosen
              exact ⟨account, found, capable⟩
            · rw [account?, Option.bind_some, found, Option.filter_some]
              cases account.isSim <;> rfl
          · rw [if_neg capable] at accepted
            exact absurd accepted (by simp)

theorem setCallManagerEffect_eq_ok
    {handle : Option Handle}
    (accepted : registry.setCallManagerEffect handle = .ok effect) :
    (∀ chosen ∈ handle, ∃ account,
        registry.catalog.find? chosen = some account ∧
          account.has .connectionManager = true) ∧
      effect.catalog =
        { registry.catalog with
          simCallManager := some (handle.getD Handle.noneSelected) } ∧
      effect.event = .simCallManager ∧
      effect.voice = none := by
  unfold setCallManagerEffect at accepted
  cases handle with
  | none =>
      simp only [Except.ok.injEq] at accepted
      subst accepted
      exact ⟨by simp, rfl, rfl, rfl⟩
  | some handle =>
      cases found : registry.catalog.find? handle with
      | none =>
          simp only [found] at accepted
          exact absurd accepted (by simp)
      | some account =>
          simp only [found] at accepted
          by_cases capable : account.has .connectionManager = true
          · rw [if_pos capable, Except.ok.injEq] at accepted
            subst accepted
            refine ⟨?_, rfl, rfl, rfl⟩
            intro chosen isChosen
            obtain rfl := Option.some.inj isChosen
            exact ⟨account, found, capable⟩
          · rw [if_neg capable] at accepted
            exact absurd accepted (by simp)

/-! ## Carrying out -/

/-- Setting the subscription for calls touches nothing else of the device. -/
theorem applyVoice_eq (device : Device) (voice : Option Int) :
    applyVoice device voice =
      { device with
        subscriptions := device.subscriptions.withDefaultVoice
          (voice.getD device.subscriptions.defaultVoice) } := by
  cases voice <;> rfl

/-- Saving what cannot be written out leaves the device as it is. -/
theorem save_of_unwritable (unwritable : registry.isWritable device = false) :
    registry.save device = device := by
  rw [save, StateFile.save_fst_eq_getD, StateFile.save?_of_unwritable unwritable]
  rfl

/-- Carrying out an effect touches the subscription for calls and the files alone. -/
theorem commit_snd (registry : Registry) (device : Device) (effect : Effect) :
    (registry.commit device effect).2.directory = device.directory ∧
      (registry.commit device effect).2.settings = device.settings ∧
      (registry.commit device effect).2.files =
        (StateFile.save? device.directory registry.stateFile effect.catalog device.files).getD
          device.files := by
  unfold commit save applyVoice
  cases effect.voice <;> exact ⟨rfl, rfl, StateFile.save_fst_eq_getD _ _ _ _⟩

/-! ## What stays -/

/-- An account that is there after a change was there before, or was just registered, or was
switched. -/
theorem mem_effectOf
    {change : Change}
    (accepted : registry.effectOf device caller change = .ok effect)
    {account : Account}
    (member : account ∈ effect.catalog.accounts) :
    account ∈ registry.catalog.accounts ∨
      (∃ registered,
        change = .register registered ∧ account = storedAs registry.catalog registered) ∨
      ∃ switched ∈ registry.catalog.accounts, ∃ enabled,
        switched.isSim = false ∧ account = switched.withEnabled enabled := by
  cases change with
  | register registered =>
      rw [(registerEffect_eq_ok accepted).2] at member
      rcases Accounts.eq_or_mem_of_mem_put member with stored | before
      · exact .inr (.inl ⟨registered, rfl, stored⟩)
      · exact .inl before
  | unregister handle =>
      obtain ⟨dropped, -, rfl⟩ := unregisterEffect_eq_ok accepted
      exact .inl (List.mem_of_mem_eraseP member)
  | clear package scope =>
      rw [(clearEffect_eq_ok accepted).2] at member
      exact .inl (List.mem_filter.mp member).1
  | setEnabled handle enabled =>
      obtain ⟨switched, found, noSim, -, rfl⟩ := setEnabledEffect_eq_ok accepted
      rcases Accounts.eq_or_mem_of_mem_put member with stored | before
      · have there := (Accounts.mem_and_handle_of_find?_eq_some (account?_eq_some found).2).1
        exact .inr (.inr ⟨switched, there, enabled, noSim, stored⟩)
      · exact .inl before
  | setDefaultOutgoing handle =>
      rw [(setDefaultOutgoingEffect_eq_ok accepted).2.1] at member
      exact .inl member
  | setCallManager handle =>
      rw [(setCallManagerEffect_eq_ok accepted).2.1] at member
      exact .inl member

/-- What is chosen after a change was chosen before, or is an account that is there; as the
manager, it may also be the explicit choice of none. -/
theorem chosen_effectOf
    {change : Change}
    (accepted : registry.effectOf device caller change = .ok effect) :
    (∀ chosen ∈ effect.catalog.defaultOutgoing,
        chosen ∈ registry.catalog.defaultOutgoing ∨
          ∃ account ∈ registry.catalog.accounts, account.handle = chosen) ∧
      ∀ manager ∈ effect.catalog.simCallManager,
        manager ∈ registry.catalog.simCallManager ∨
          manager = Handle.noneSelected ∨
          ∃ account ∈ registry.catalog.accounts, account.handle = manager := by
  cases change with
  | register account =>
      rw [(registerEffect_eq_ok accepted).2]
      exact ⟨fun _ chosen => .inl chosen, fun _ manages => .inl manages⟩
  | unregister handle =>
      obtain ⟨account, -, rfl⟩ := unregisterEffect_eq_ok accepted
      exact ⟨fun _ chosen => .inl chosen, fun _ manages => .inl manages⟩
  | clear package scope =>
      rw [(clearEffect_eq_ok accepted).2]
      exact ⟨fun _ chosen => .inl chosen, fun _ manages => .inl manages⟩
  | setEnabled handle enabled =>
      obtain ⟨account, -, -, -, rfl⟩ := setEnabledEffect_eq_ok accepted
      exact ⟨fun _ chosen => .inl chosen, fun _ manages => .inl manages⟩
  | setDefaultOutgoing handle =>
      obtain ⟨known, catalog, -⟩ := setDefaultOutgoingEffect_eq_ok accepted
      rw [catalog]
      refine ⟨?_, fun manager manages => .inl manages⟩
      intro chosen isChosen
      obtain ⟨account, found, -⟩ := known chosen isChosen
      exact .inr ⟨account, Accounts.mem_and_handle_of_find?_eq_some found⟩
  | setCallManager handle =>
      obtain ⟨known, catalog, -⟩ := setCallManagerEffect_eq_ok accepted
      rw [catalog]
      refine ⟨fun chosen isChosen => .inl isChosen, ?_⟩
      intro manager manages
      obtain rfl := Option.some.inj manages
      cases handle with
      | none => exact .inr (.inl rfl)
      | some named =>
          obtain ⟨account, found, -⟩ := known named rfl
          exact .inr (.inr ⟨account, Accounts.mem_and_handle_of_find?_eq_some found⟩)

/-- No effect changes the version. -/
theorem effectOf_version
    {change : Change}
    (accepted : registry.effectOf device caller change = .ok effect) :
    effect.catalog.version = registry.catalog.version := by
  cases change with
  | register account => rw [(registerEffect_eq_ok accepted).2, Effect.ofAccounts]
  | unregister handle =>
      obtain ⟨account, -, rfl⟩ := unregisterEffect_eq_ok accepted
      rfl
  | clear package scope => rw [(clearEffect_eq_ok accepted).2, Effect.ofAccounts]
  | setEnabled handle enabled =>
      obtain ⟨account, -, -, -, rfl⟩ := setEnabledEffect_eq_ok accepted
      rfl
  | setDefaultOutgoing handle => rw [(setDefaultOutgoingEffect_eq_ok accepted).2.1]
  | setCallManager handle => rw [(setCallManagerEffect_eq_ok accepted).2.1]

/-- Every effect keeps the handles unique. -/
theorem effectOf_unique
    {change : Change}
    (unique : Accounts.Unique registry.catalog.accounts)
    (accepted : registry.effectOf device caller change = .ok effect) :
    Accounts.Unique effect.catalog.accounts := by
  cases change with
  | register account =>
      rw [(registerEffect_eq_ok accepted).2, Effect.ofAccounts]
      exact Accounts.unique_put _ unique
  | unregister handle =>
      obtain ⟨account, -, rfl⟩ := unregisterEffect_eq_ok accepted
      show Accounts.Unique (Accounts.drop account.handle registry.catalog.accounts)
      rw [Accounts.drop_eq_filter _ unique]
      exact Accounts.unique_filter _ unique
  | clear package scope =>
      rw [(clearEffect_eq_ok accepted).2, Effect.ofAccounts]
      exact Accounts.unique_filter _ unique
  | setEnabled handle enabled =>
      obtain ⟨account, -, -, -, rfl⟩ := setEnabledEffect_eq_ok accepted
      exact Accounts.unique_put _ unique
  | setDefaultOutgoing handle =>
      rw [(setDefaultOutgoingEffect_eq_ok accepted).2.1]
      exact unique
  | setCallManager handle =>
      rw [(setCallManagerEffect_eq_ok accepted).2.1]
      exact unique

end PhoneAccounts.Registry

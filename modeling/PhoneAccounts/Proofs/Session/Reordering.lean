import PhoneAccounts.Proofs.Registry.Choices
import PhoneAccounts.Proofs.Session.Noninterference

/-!
Contract: the order of the accounts decides no answer.

Two catalogs with the same accounts in different orders answer alike: what is looked up by handle
is found in both or in neither, a query lists the same accounts, and whether an account is the only
one that can place a call is a matter of the list as a set.  The one answer that depends on the
order is the manager that the device is set to, where its component has several accounts: it is the
first of them.

Owns: `Catalog.IsReordering`, `Answer.IsReordering`, and the reads of two such catalogs.

Does not own: catalogs that differ in what is hidden from a caller (see
`PhoneAccounts.Proofs.Session.Noninterference`).
-/

namespace PhoneAccounts

/-- The catalogs hold the same accounts, under handles that are all different, and the same
choices. -/
structure Catalog.IsReordering (left right : Catalog) : Prop where
  unique : Accounts.Unique left.accounts
  accounts : left.accounts.Perm right.accounts
  defaultOutgoing : left.defaultOutgoing = right.defaultOutgoing
  simCallManager : left.simCallManager = right.simCallManager

/-- The answers are lists in perhaps different orders, or the same. -/
def Answer.IsReordering : Answer → Answer → Prop
  | .accounts left, .accounts right => left.Perm right
  | .handles left, .handles right => left.Perm right
  | left, right => left = right

/-- With unique handles it does not matter in which order the accounts are searched. -/
theorem Accounts.find?_perm
    {left right : List Account}
    (reordered : left.Perm right)
    (unique : Unique left)
    (handle : Handle) :
    find? handle left = find? handle right := by
  have uniqueRight : Unique right := (reordered.map Account.handle).nodup_iff.mp unique
  cases found : find? handle right with
  | some account =>
      obtain ⟨member, rfl⟩ := mem_and_handle_of_find?_eq_some found
      exact find?_handle_of_mem unique (reordered.mem_iff.mpr member)
  | none =>
      rw [find?_eq_none_iff] at found ⊢
      rwa [(reordered.map Account.handle).mem_iff]

/-- What is found first may differ in two orders, but not whether anything is found. -/
theorem find?_cases_of_perm
    {Element : Type}
    {left right : List Element}
    (reordered : left.Perm right)
    (wanted : Element → Bool) :
    (left.find? wanted = none ∧ right.find? wanted = none) ∨
      ∃ first second, left.find? wanted = some first ∧ right.find? wanted = some second := by
  cases found : left.find? wanted with
  | none =>
      refine .inl ⟨rfl, List.find?_eq_none.mpr fun element member => ?_⟩
      exact List.find?_eq_none.mp found element (reordered.mem_iff.mpr member)
  | some first =>
      have listed := reordered.mem_iff.mp (List.mem_of_find?_eq_some found)
      have isWanted := List.find?_some found
      have somewhere := List.find?_isSome.mpr ⟨first, listed, isWanted⟩
      obtain ⟨second, other⟩ := Option.isSome_iff_exists.mp somewhere
      exact .inr ⟨first, second, rfl, other⟩

namespace Registry

/-- The registries hold the same accounts in perhaps different orders, and have the same scope in
the foreground. -/
structure IsReordering (left right : Registry) : Prop where
  catalog : left.catalog.IsReordering right.catalog
  foreground : left.foreground = right.foreground

namespace IsReordering

variable {left right : Registry} (device : Device) (caller : Scope)

theorem isVisible (reordered : left.IsReordering right) :
    left.isVisible device caller = right.isVisible device caller := by
  funext account
  unfold Registry.isVisible viewer
  rw [reordered.foreground]

theorem account? (reordered : left.IsReordering right) (handle : Option Handle) :
    left.account? handle = right.account? handle := by
  cases handle with
  | none => rfl
  | some handle =>
      exact Accounts.find?_perm reordered.catalog.accounts reordered.catalog.unique handle

theorem visibleAccount? (reordered : left.IsReordering right) (handle : Option Handle) :
    left.visibleAccount? device caller handle = right.visibleAccount? device caller handle := by
  unfold Registry.visibleAccount?
  rw [reordered.account?, reordered.isVisible]

theorem query (reordered : left.IsReordering right) (filter : Filter) :
    (left.query device caller filter).Perm (right.query device caller filter) := by
  unfold Registry.query
  rw [reordered.isVisible]
  exact reordered.catalog.accounts.filter _

theorem queryHandles (reordered : left.IsReordering right) (filter : Filter) :
    (left.queryHandles device caller filter).Perm (right.queryHandles device caller filter) :=
  (reordered.query device caller filter).map Account.handle

theorem subscriptionOf (reordered : left.IsReordering right) (handle : Option Handle) :
    left.subscriptionOf device caller handle = right.subscriptionOf device caller handle := by
  unfold Registry.subscriptionOf
  rw [reordered.visibleAccount?]

theorem chosenOutgoing? (reordered : left.IsReordering right) :
    left.chosenOutgoing? device caller = right.chosenOutgoing? device caller := by
  unfold Registry.chosenOutgoing?
  rw [reordered.visibleAccount?, reordered.catalog.defaultOutgoing]

theorem outgoingFor? (reordered : left.IsReordering right) (scheme : Option String) :
    left.outgoingFor? device caller scheme = right.outgoingFor? device caller scheme := by
  have listed : (left.callCapableHandles device caller scheme false).Perm
      (right.callCapableHandles device caller scheme false) :=
    reordered.queryHandles device caller _
  rw [outgoingFor?_eq, outgoingFor?_eq, reordered.chosenOutgoing?, reordered.visibleAccount?,
    only?_perm listed]

/-- Both are set to a manager whose component has an account that is listed, or neither is. -/
theorem usualManager?_cases (reordered : left.IsReordering right) :
    (left.usualManager? device caller = none ∧ right.usualManager? device caller = none) ∨
      ∃ component first second,
        Component.ofText? device.settings.defaultManager = some component ∧
          left.usualManager? device caller = some first ∧
          right.usualManager? device caller = some second ∧
          (first.component = component ∧ first ∈ left.allHandles device caller) ∧
          second.component = component ∧ second ∈ left.allHandles device caller := by
  unfold Registry.usualManager?
  cases Component.ofText? device.settings.defaultManager with
  | none => exact .inl ⟨rfl, rfl⟩
  | some component =>
      dsimp only
      by_cases installed : isInstalledFor device caller component = true
      · rw [if_pos installed, if_pos installed]
        have listed : (left.allHandles device caller).Perm (right.allHandles device caller) :=
          reordered.queryHandles device caller {}
        rcases find?_cases_of_perm listed fun handle => handle.component = component with
          neither | ⟨first, second, isFirst, isSecond⟩
        · exact .inl neither
        · have firstWanted := List.find?_some isFirst
          have secondWanted := List.find?_some isSecond
          exact .inr ⟨component, first, second, rfl, isFirst, isSecond,
            ⟨of_decide_eq_true firstWanted, List.mem_of_find?_eq_some isFirst⟩,
            of_decide_eq_true secondWanted,
            listed.mem_iff.mpr (List.mem_of_find?_eq_some isSecond)⟩
      · rw [if_neg installed, if_neg installed]
        exact .inl ⟨rfl, rfl⟩

theorem countsAsManager_iff (reordered : left.IsReordering right) (manager : Handle) :
    left.CountsAsManager device caller manager ↔ right.CountsAsManager device caller manager := by
  constructor
  · rintro ⟨chosen, visible, resolves⟩
    rw [reordered.catalog.simCallManager] at chosen
    rw [reordered.visibleAccount?] at visible
    exact ⟨chosen, visible, resolves⟩
  · rintro ⟨chosen, visible, resolves⟩
    rw [← reordered.catalog.simCallManager] at chosen
    rw [← reordered.visibleAccount?] at visible
    exact ⟨chosen, visible, resolves⟩

/-- Where no chosen manager counts, there is none in both, or each has one of the component that the
device is set to. -/
theorem callManager?_of_noneCounts
    (reordered : left.IsReordering right)
    (noneCounts : ∀ manager, ¬ left.CountsAsManager device caller manager) :
    (left.callManager? device caller = none ∧ right.callManager? device caller = none) ∨
      ∃ component first second,
        Component.ofText? device.settings.defaultManager = some component ∧
          left.callManager? device caller = some first ∧
          right.callManager? device caller = some second ∧
          (first.component = component ∧
            (left.visibleAccount? device caller (some first)).isSome = true) ∧
          second.component = component ∧
            (right.visibleAccount? device caller (some second)).isSome = true := by
  have noneCountsRight (manager : Handle) : ¬ right.CountsAsManager device caller manager :=
    fun counts =>
      noneCounts manager ((reordered.countsAsManager_iff device caller manager).mpr counts)
  have isVisible {handle : Handle} (listed : handle ∈ left.allHandles device caller) :
      (left.visibleAccount? device caller (some handle)).isSome = true := by
    obtain ⟨account, visible, -⟩ := (mem_queryHandles_iff reordered.catalog.unique).mp listed
    exact Option.isSome_of_eq_some visible
  rw [callManager?_eq_usualManager? noneCounts, callManager?_eq_usualManager? noneCountsRight]
  rcases reordered.usualManager?_cases device caller with
    neither | ⟨component, first, second, set, isFirst, isSecond, ⟨ofFirst, firstListed⟩,
      ofSecond, secondListed⟩
  · exact .inl neither
  · refine .inr ⟨component, first, second, set, isFirst, isSecond, ⟨ofFirst, isVisible firstListed⟩,
      ofSecond, ?_⟩
    rw [← reordered.visibleAccount?]
    exact isVisible secondListed

end IsReordering

end Registry

namespace Session

variable {left right : Session} {caller : Scope}

/-- Every answer that a caller gets from what it may see is the same or a list in another order,
but for the manager; and so is the look-up for everyone. -/
theorem answer_isReordering
    (sameDevice : left.device = right.device)
    (reordered : left.registry.IsReordering right.registry)
    {inquiry : Inquiry}
    (answered : inquiry.isFiltered = true ∨ ∃ handle, inquiry = .account handle)
    (other : inquiry ≠ .callManager) :
    (left.answer caller inquiry).IsReordering (right.answer caller inquiry) := by
  rcases answered with filtered | ⟨handle, rfl⟩
  · unfold answer
    rw [← sameDevice]
    cases inquiry with
    | callManager => exact absurd rfl other
    | visibleAccount handle =>
        exact congrArg Answer.account (reordered.visibleAccount? _ _ handle)
    | chosenOutgoing => exact congrArg Answer.handle (reordered.chosenOutgoing? _ _)
    | outgoingFor scheme => exact congrArg Answer.handle (reordered.outgoingFor? _ _ scheme)
    | allAccounts => exact reordered.query _ _ _
    | allHandles => exact reordered.queryHandles _ _ _
    | simHandles => exact reordered.queryHandles _ _ _
    | managerHandles => exact reordered.queryHandles _ _ _
    | callCapableHandles scheme includeDisabled => exact reordered.queryHandles _ _ _
    | ownedHandles package => exact reordered.queryHandles _ _ _
    | subscriptionOf handle =>
        exact congrArg Answer.integer (reordered.subscriptionOf _ _ handle)
    | isSmsAccount handle =>
        refine congrArg Answer.flag ?_
        unfold Registry.isSmsAccount
        rw [reordered.subscriptionOf]
    | isVoicemail handle number =>
        refine congrArg Answer.flag ?_
        unfold Registry.isVoicemail
        rw [reordered.subscriptionOf]
    | _ => exact absurd filtered Bool.false_ne_true
  · exact congrArg Answer.account (reordered.account? handle)

/-- Take two sessions whose devices differ at most in their files, with the same scope in the
foreground, and with catalogs that differ in the order of the accounts alone.  Every query lists
the same accounts, and every answer is the same or a list in another order.  So is the manager, if
the chosen one counts; if it does not, both sessions have none, or each has an account of the
component that the device is set to, which the caller sees. -/
theorem answers_ignoreOrder
    (caller : Scope)
    (sameDirectory : left.device.directory = right.device.directory)
    (sameInstalls : left.device.installs = right.device.installs)
    (sameSubscriptions : left.device.subscriptions = right.device.subscriptions)
    (sameSettings : left.device.settings = right.device.settings)
    (sameForeground : left.registry.foreground = right.registry.foreground)
    (reordered : left.registry.catalog.IsReordering right.registry.catalog) :
    (∀ filter,
      (left.registry.query left.device caller filter).Perm
        (right.registry.query right.device caller filter)) ∧
    (∀ inquiry : Inquiry,
      (inquiry.isFiltered = true ∨ ∃ handle, inquiry = .account handle) →
        inquiry ≠ .callManager →
          (left.answer caller inquiry).IsReordering (right.answer caller inquiry)) ∧
    (∀ manager, left.registry.CountsAsManager left.device caller manager →
      left.answer caller .callManager = .handle (some manager) ∧
        right.answer caller .callManager = .handle (some manager)) ∧
    ((∀ manager, ¬ left.registry.CountsAsManager left.device caller manager) →
      (left.answer caller .callManager = .handle none ∧
        right.answer caller .callManager = .handle none) ∨
      ∃ component first second,
        Component.ofText? left.device.settings.defaultManager = some component ∧
          left.answer caller .callManager = .handle (some first) ∧
          right.answer caller .callManager = .handle (some second) ∧
          (first.component = component ∧
            (left.registry.visibleAccount? left.device caller (some first)).isSome = true) ∧
          second.component = component ∧
            (right.registry.visibleAccount? right.device caller (some second)).isSome = true) := by
  have sameDevice := device_eq_withFiles sameDirectory sameInstalls sameSubscriptions sameSettings
  have reorders : left.registry.IsReordering right.registry := ⟨reordered, sameForeground⟩
  -- No read of the right session looks into its files, so it may be read on the left device.
  have rightQuery (filter : Registry.Filter) :
      right.registry.query right.device caller filter =
        right.registry.query left.device caller filter := by
    rw [sameDevice]
    rfl
  have rightManager : right.answer caller .callManager =
      .handle (right.registry.callManager? left.device caller) := by
    rw [sameDevice]
    rfl
  have rightVisible (handle : Option Handle) :
      right.registry.visibleAccount? right.device caller handle =
        right.registry.visibleAccount? left.device caller handle := by
    rw [sameDevice]
    rfl
  refine ⟨?_, ?_, ?_, ?_⟩
  · intro filter
    rw [rightQuery]
    exact reorders.query left.device caller filter
  · intro inquiry answered other
    have alike : (left.answer caller inquiry).IsReordering
        ((right.withFiles left.device.files).answer caller inquiry) :=
      answer_isReordering sameDevice reorders answered other
    rcases answered with filtered | ⟨handle, rfl⟩
    · rw [answer_withFiles right left.device.files caller filtered] at alike
      exact alike
    · exact alike
  · intro manager counts
    have rightCounts := (reorders.countsAsManager_iff left.device caller manager).mp counts
    rw [rightManager, rightCounts.callManager?_eq]
    exact ⟨congrArg Answer.handle counts.callManager?_eq, rfl⟩
  · intro noneCounts
    have leftManager : left.answer caller .callManager =
        .handle (left.registry.callManager? left.device caller) := rfl
    rw [leftManager, rightManager]
    simp only [rightVisible, Answer.handle.injEq]
    exact reorders.callManager?_of_noneCounts left.device caller noneCounts

/-! ## A sample -/

/-- Two accounts are registered, switched on, and the device is set to their component. -/
def pairSession (first second : Account) : Session :=
  sampleSession.makes
    [.change Scope.owner (.register first),
      .change Scope.owner (.register second),
      .change Scope.owner (.setEnabled first.handle true),
      .change Scope.owner (.setEnabled second.handle true),
      .adjust (.setDefaultManager "com.calls/Service")]

/-- In both orders neither account is the only one for a scheme, and there is a manager; it is the
account that was registered first. -/
theorem pairSession_ignoresOrder :
    let own := sampleAccount Scope.owner
    let other := sampleAccount ⟨10⟩
    let left := pairSession own other
    let right := pairSession other own
    left.registry.catalog.IsReordering right.registry.catalog ∧
      left.answer Scope.owner .allHandles ≠ right.answer Scope.owner .allHandles ∧
      (left.answer Scope.owner .allHandles).IsReordering (right.answer Scope.owner .allHandles) ∧
      (left.answer Scope.owner (.outgoingFor "tel")).IsReordering
        (right.answer Scope.owner (.outgoingFor "tel")) ∧
      left.answer Scope.owner .callManager = .handle (some own.handle) ∧
      right.answer Scope.owner .callManager = .handle (some other.handle) := by
  intro own other left right
  have reordered : left.registry.catalog.IsReordering right.registry.catalog :=
    ⟨by decide +kernel, by decide +kernel, by decide +kernel, by decide +kernel⟩
  obtain ⟨-, alike, -, -⟩ := @answers_ignoreOrder left right Scope.owner
    (by decide +kernel) (by decide +kernel) (by decide +kernel) (by decide +kernel)
    (by decide +kernel) reordered
  exact ⟨reordered, by decide +kernel, alike .allHandles (.inl rfl) nofun,
    alike (.outgoingFor "tel") (.inl rfl) nofun, by decide +kernel, by decide +kernel⟩

end Session

end PhoneAccounts

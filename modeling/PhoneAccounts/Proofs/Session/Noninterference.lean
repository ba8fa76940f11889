import PhoneAccounts.Proofs.Registry.View
import PhoneAccounts.Proofs.Session.OrderedMap

/-!
Contract: a caller learns nothing from the accounts that are hidden from it.

Two sessions that can come about, on devices that differ at most in their files, give a
caller the same answers whenever they give it the same view; and an answer shows nothing
that is not in the view.

Owns: `Inquiry.isFiltered`, `Answer.IsWithin`, and both of these facts.

Does not own: what the view holds (see `PhoneAccounts.Proofs.Registry.View`).
-/

namespace PhoneAccounts

/-- The inquiry is answered from what the caller may see. -/
def Inquiry.isFiltered : Inquiry → Bool
  | .visibleAccount _ => true
  | .chosenOutgoing => true
  | .callManager => true
  | .outgoingFor _ => true
  | .allAccounts => true
  | .allHandles => true
  | .simHandles => true
  | .managerHandles => true
  | .callCapableHandles _ _ => true
  | .ownedHandles _ => true
  | .subscriptionOf _ => true
  | .isSmsAccount _ => true
  | .isVoicemail _ _ => true
  | _ => false

/-- The answer shows accounts and handles of the view alone. -/
def Answer.IsWithin (view : View) : Answer → Prop
  | .account shown => ∀ account ∈ shown, account ∈ view.accounts
  | .accounts shown => ∀ account ∈ shown, account ∈ view.accounts
  | .handle shown => ∀ handle ∈ shown, view.names handle = true
  | .handles shown => ∀ handle ∈ shown, view.names handle = true
  | .integer _ => True
  | .flag _ => True
  | _ => False

namespace Registry

/-! ## Two registries with one view -/

/-- The registries keep their handles unique and give the caller the same view. -/
structure Alike (device : Device) (caller : Scope) (left right : Registry) : Prop where
  leftUnique : Accounts.Unique left.catalog.accounts
  rightUnique : Accounts.Unique right.catalog.accounts
  sameView : left.view device caller = right.view device caller

namespace Alike

variable {device : Device} {caller : Scope} {left right : Registry}

theorem visibleAccount? (alike : Alike device caller left right) (handle : Option Handle) :
    left.visibleAccount? device caller handle = right.visibleAccount? device caller handle := by
  rw [visibleAccount?_eq_view device caller alike.leftUnique,
    visibleAccount?_eq_view device caller alike.rightUnique, alike.sameView]

theorem query (alike : Alike device caller left right) (filter : Filter) :
    left.query device caller filter = right.query device caller filter := by
  rw [query_eq_view, query_eq_view, alike.sameView]

theorem queryHandles (alike : Alike device caller left right) (filter : Filter) :
    left.queryHandles device caller filter = right.queryHandles device caller filter := by
  rw [Registry.queryHandles, Registry.queryHandles, alike.query]

theorem subscriptionOf (alike : Alike device caller left right) (handle : Option Handle) :
    left.subscriptionOf device caller handle = right.subscriptionOf device caller handle := by
  rw [Registry.subscriptionOf, Registry.subscriptionOf, alike.visibleAccount?]

theorem chosenOutgoing? (alike : Alike device caller left right) :
    left.chosenOutgoing? device caller = right.chosenOutgoing? device caller := by
  rw [chosenOutgoing?_eq_view device caller alike.leftUnique,
    chosenOutgoing?_eq_view device caller alike.rightUnique, alike.sameView]

theorem outgoingFor? (alike : Alike device caller left right) (scheme : Option String) :
    left.outgoingFor? device caller scheme = right.outgoingFor? device caller scheme := by
  unfold Registry.outgoingFor? callCapableHandles
  simp only [alike.chosenOutgoing?, alike.visibleAccount?, alike.queryHandles]

theorem usualManager? (alike : Alike device caller left right) :
    left.usualManager? device caller = right.usualManager? device caller := by
  unfold Registry.usualManager? allHandles
  rw [alike.queryHandles]

theorem callManager? (alike : Alike device caller left right) :
    left.callManager? device caller = right.callManager? device caller := by
  rw [callManager?_eq_view device caller alike.leftUnique,
    callManager?_eq_view device caller alike.rightUnique, alike.sameView, alike.usualManager?]

end Alike

/-! ## Answers lie in the view -/

variable {registry : Registry} (device : Device) (caller : Scope)

theorem mem_view_of_visibleAccount?
    (unique : Accounts.Unique registry.catalog.accounts)
    {handle : Option Handle}
    {account : Account}
    (found : registry.visibleAccount? device caller handle = some account) :
    account ∈ (registry.view device caller).accounts := by
  rw [visibleAccount?_eq_view device caller unique] at found
  obtain ⟨handle, -, found⟩ := Option.bind_eq_some_iff.mp found
  exact (Accounts.mem_and_handle_of_find?_eq_some found).1

theorem mem_view_of_mem_query
    {filter : Filter}
    {account : Account}
    (member : account ∈ registry.query device caller filter) :
    account ∈ (registry.view device caller).accounts := by
  rw [query_eq_view] at member
  exact (List.mem_filter.mp member).1

theorem names_of_mem_queryHandles
    {filter : Filter}
    {handle : Handle}
    (member : handle ∈ registry.queryHandles device caller filter) :
    (registry.view device caller).names handle = true := by
  obtain ⟨account, found, rfl⟩ := List.mem_map.mp member
  exact decide_eq_true (List.mem_map_of_mem (mem_view_of_mem_query device caller found))

theorem names_of_chosenOutgoing?
    (unique : Accounts.Unique registry.catalog.accounts)
    {handle : Handle}
    (chosen : registry.chosenOutgoing? device caller = some handle) :
    (registry.view device caller).names handle = true := by
  rw [chosenOutgoing?_eq_view device caller unique] at chosen
  exact (Option.filter_eq_some_iff.mp chosen).2

/-- The default for a scheme is the chosen one or the only one of a query. -/
theorem names_of_outgoingFor?
    (unique : Accounts.Unique registry.catalog.accounts)
    {scheme : Option String}
    {handle : Handle}
    (found : registry.outgoingFor? device caller scheme = some handle) :
    (registry.view device caller).names handle = true := by
  unfold outgoingFor? at found
  simp only at found
  split at found
  · exact names_of_chosenOutgoing? device caller unique found
  · split at found
    · next only listed =>
        obtain rfl := Option.some.inj found
        apply names_of_mem_queryHandles device caller
        unfold callCapableHandles at listed
        rw [listed]
        exact List.mem_singleton_self only
    · exact absurd found (by simp)

theorem names_of_usualManager?
    {handle : Handle}
    (found : registry.usualManager? device caller = some handle) :
    (registry.view device caller).names handle = true := by
  unfold usualManager? at found
  split at found
  · exact absurd found (by simp)
  · split at found
    · exact names_of_mem_queryHandles device caller (List.mem_of_find?_eq_some found)
    · exact absurd found (by simp)

theorem names_of_callManager?
    (unique : Accounts.Unique registry.catalog.accounts)
    {handle : Handle}
    (found : registry.callManager? device caller = some handle) :
    (registry.view device caller).names handle = true := by
  rw [callManager?_eq_view device caller unique] at found
  split at found
  · exact (Option.filter_eq_some_iff.mp found).2
  · exact names_of_usualManager? device caller found

end Registry

namespace Session

/-! ## Answers -/

/-- No filtered inquiry looks into the files. -/
theorem answer_withFiles
    (session : Session)
    (files : Entry)
    (caller : Scope)
    {inquiry : Inquiry}
    (filtered : inquiry.isFiltered = true) :
    (session.withFiles files).answer caller inquiry = session.answer caller inquiry := by
  cases inquiry <;> first | rfl | exact absurd filtered Bool.false_ne_true

/-- Devices that agree in everything but their files are the same up to the files. -/
theorem device_eq_withFiles
    {left right : Session}
    (sameDirectory : left.device.directory = right.device.directory)
    (sameInstalls : left.device.installs = right.device.installs)
    (sameSubscriptions : left.device.subscriptions = right.device.subscriptions)
    (sameSettings : left.device.settings = right.device.settings) :
    left.device = (right.withFiles left.device.files).device := by
  show left.device =
    ⟨right.device.directory, right.device.installs, right.device.subscriptions,
      right.device.settings, left.device.files⟩
  rw [← sameDirectory, ← sameInstalls, ← sameSubscriptions, ← sameSettings]

theorem answer_eq_of_alike
    {left right : Session}
    {caller : Scope}
    (sameDevice : left.device = right.device)
    (alike : Registry.Alike left.device caller left.registry right.registry)
    {inquiry : Inquiry}
    (filtered : inquiry.isFiltered = true) :
    left.answer caller inquiry = right.answer caller inquiry := by
  unfold answer
  rw [← sameDevice]
  cases inquiry with
  | visibleAccount handle => exact congrArg Answer.account (alike.visibleAccount? handle)
  | chosenOutgoing => exact congrArg Answer.handle alike.chosenOutgoing?
  | callManager => exact congrArg Answer.handle alike.callManager?
  | outgoingFor scheme => exact congrArg Answer.handle (alike.outgoingFor? scheme)
  | allAccounts => exact congrArg Answer.accounts (alike.query _)
  | allHandles => exact congrArg Answer.handles (alike.queryHandles _)
  | simHandles => exact congrArg Answer.handles (alike.queryHandles _)
  | managerHandles => exact congrArg Answer.handles (alike.queryHandles _)
  | callCapableHandles scheme includeDisabled =>
      exact congrArg Answer.handles (alike.queryHandles _)
  | ownedHandles package => exact congrArg Answer.handles (alike.queryHandles _)
  | subscriptionOf handle => exact congrArg Answer.integer (alike.subscriptionOf handle)
  | isSmsAccount handle =>
      simp only [Registry.isSmsAccount, alike.subscriptionOf handle]
  | isVoicemail handle number =>
      simp only [Registry.isVoicemail, alike.subscriptionOf handle]
  | _ => exact absurd filtered Bool.false_ne_true

theorem answer_isWithin
    (session : Session)
    (caller : Scope)
    (unique : Accounts.Unique session.registry.catalog.accounts)
    {inquiry : Inquiry}
    (filtered : inquiry.isFiltered = true) :
    (session.answer caller inquiry).IsWithin (session.registry.view session.device caller) := by
  cases inquiry with
  | visibleAccount handle =>
      exact fun account found => Registry.mem_view_of_visibleAccount? _ _ unique found
  | chosenOutgoing => exact fun handle found => Registry.names_of_chosenOutgoing? _ _ unique found
  | callManager => exact fun handle found => Registry.names_of_callManager? _ _ unique found
  | outgoingFor scheme =>
      exact fun handle found => Registry.names_of_outgoingFor? _ _ unique found
  | allAccounts => exact fun account member => Registry.mem_view_of_mem_query _ _ member
  | allHandles => exact fun handle member => Registry.names_of_mem_queryHandles _ _ member
  | simHandles => exact fun handle member => Registry.names_of_mem_queryHandles _ _ member
  | managerHandles => exact fun handle member => Registry.names_of_mem_queryHandles _ _ member
  | callCapableHandles scheme includeDisabled =>
      exact fun handle member => Registry.names_of_mem_queryHandles _ _ member
  | ownedHandles package =>
      exact fun handle member => Registry.names_of_mem_queryHandles _ _ member
  | subscriptionOf handle => trivial
  | isSmsAccount handle => trivial
  | isVoicemail handle number => trivial
  | _ => exact absurd filtered Bool.false_ne_true

/-- Two sessions that can come about, and whose devices differ at most in their files, give a
caller with the same view of both the same answer to every filtered inquiry.  The answer
lies in the view.  The foreground is known, so the rule that shows everything while it is not
is never used. -/
theorem answer_eq_of_same_view
    {left right : Session}
    (leftReached : Reachable left)
    (rightReached : Reachable right)
    (caller : Scope)
    (sameDirectory : left.device.directory = right.device.directory)
    (sameInstalls : left.device.installs = right.device.installs)
    (sameSubscriptions : left.device.subscriptions = right.device.subscriptions)
    (sameSettings : left.device.settings = right.device.settings)
    (sameView : left.registry.view left.device caller = right.registry.view right.device caller)
    (inquiry : Inquiry)
    (filtered : inquiry.isFiltered = true) :
    left.answer caller inquiry = right.answer caller inquiry ∧
      (left.answer caller inquiry).IsWithin (left.registry.view left.device caller) ∧
      (left.registry.viewer caller).foreground ≠ none ∧
      ∀ account, left.registry.isVisible left.device caller account = true ↔
        account.InView left.device.directory left.registry.foreground caller := by
  -- Files are all that may differ, and they hold what is hidden; no filtered inquiry reads them.
  have sameDevice :=
    device_eq_withFiles sameDirectory sameInstalls sameSubscriptions sameSettings
  have alike : Registry.Alike left.device caller left.registry right.registry := by
    refine ⟨leftReached.inUse.unique, rightReached.inUse.unique, sameView.trans ?_⟩
    unfold Registry.view Registry.accountsInView
    rw [sameDirectory]
  refine ⟨?_, answer_isWithin left caller leftReached.inUse.unique filtered,
    Option.some_ne_none _, left.registry.isVisible_iff_inView left.device caller⟩
  rw [answer_eq_of_alike sameDevice alike filtered]
  exact answer_withFiles right left.device.files caller filtered

/-- A profile learns nothing from an account of the owner, also not by its handle: the
session that has it answers like one that does not. -/
theorem answer_eq_of_hidden_account :
    let alone := sampleSession.makes
      [.change Scope.owner (.register (sampleAccount ⟨10⟩))]
    let hidden := sampleSession.makes
      [.change Scope.owner (.register (sampleAccount Scope.owner)),
        .change Scope.owner (.setDefaultOutgoing (sampleAccount Scope.owner).handle),
        .change Scope.owner (.register (sampleAccount ⟨10⟩))]
    let inquiry := Inquiry.visibleAccount (sampleAccount Scope.owner).handle
    alone.entries ≠ hidden.entries ∧
      alone.answer ⟨10⟩ inquiry = hidden.answer ⟨10⟩ inquiry ∧
      (alone.answer ⟨10⟩ inquiry).IsWithin (alone.registry.view alone.device ⟨10⟩) := by
  intro alone hidden inquiry
  have aloneReached : Reachable alone := (Reachable.start start_sampleDevice).leads ⟨_, rfl⟩
  have hiddenReached : Reachable hidden := (Reachable.start start_sampleDevice).leads ⟨_, rfl⟩
  have sameView :
      alone.registry.view alone.device ⟨10⟩ = hidden.registry.view hidden.device ⟨10⟩ := by
    decide +kernel
  have same := answer_eq_of_same_view aloneReached hiddenReached ⟨10⟩ (by decide +kernel)
    (by decide +kernel) (by decide +kernel) (by decide +kernel) sameView inquiry rfl
  exact ⟨by decide +kernel, same.1, same.2.1⟩

end Session

end PhoneAccounts

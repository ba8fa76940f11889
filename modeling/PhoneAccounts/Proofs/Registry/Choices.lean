import PhoneAccounts.Proofs.Registry.Query

/-!
Contract: which of the choices of a catalog count for a caller.

A choice is kept whatever becomes of the account that it names, and each read decides anew whether
it counts.  The default for outgoing calls counts if its account is there, visible, and supports
the scheme; the manager counts if its account is there and visible, and its component resolves.
Where no choice counts, each has its own substitute.

Owns: `CountsAsDefault`, `CountsAsManager` and `StandsInAsManager`, and the two reads in terms of
them.

Does not own: what the accounts that are read can do (see
`PhoneAccounts.Proofs.Session.OutgoingDefault` and `PhoneAccounts.Proofs.Session.CallManager`).
-/

namespace PhoneAccounts

/-- The element of a list that has no other. -/
def only? {Element : Type} : List Element → Option Element
  | [only] => some only
  | _ => none

theorem only?_eq_some_iff
    {Element : Type}
    {elements : List Element}
    {only : Element} :
    only? elements = some only ↔ elements = [only] := by
  unfold only?
  split <;> simp_all

theorem only?_perm
    {Element : Type}
    {left right : List Element}
    (reordered : left.Perm right) :
    only? left = only? right := by
  apply Option.ext
  intro only
  rw [only?_eq_some_iff, only?_eq_some_iff]
  constructor
  · rintro rfl
    exact (List.singleton_perm.mp reordered).symm
  · rintro rfl
    exact List.perm_singleton.mp reordered

namespace Registry

variable (registry : Registry) (device : Device) (caller : Scope)

/-! ## The default for outgoing calls -/

/-- The default that was chosen counts for the caller, who sees its account, and the account
supports the scheme. -/
structure CountsAsDefault (scheme : String) (handle : Handle) : Prop where
  chosen : registry.catalog.defaultOutgoing = some handle
  serves : ∃ account,
    registry.visibleAccount? device caller (some handle) = some account ∧
      account.supports scheme = true

theorem outgoingFor?_eq (scheme : Option String) :
    registry.outgoingFor? device caller scheme =
      if (registry.visibleAccount? device caller (registry.chosenOutgoing? device caller)).any
          fun account => scheme.any account.supports then
        registry.chosenOutgoing? device caller
      else only? (registry.callCapableHandles device caller scheme false) := by
  unfold outgoingFor?
  dsimp only
  congr 1
  generalize registry.callCapableHandles device caller scheme false = listed
  match listed with
  | [] => rfl
  | [_] => rfl
  | _ :: _ :: _ => rfl

variable {registry device caller}

/-- What the caller sees of the chosen account is what the caller sees of the choice. -/
theorem visibleAccount?_chosenOutgoing? :
    registry.visibleAccount? device caller (registry.chosenOutgoing? device caller) =
      registry.visibleAccount? device caller registry.catalog.defaultOutgoing := by
  unfold chosenOutgoing?
  split
  · rfl
  · next hidden =>
      rw [Option.not_isSome_iff_eq_none] at hidden
      rw [hidden]
      rfl

/-- The default for a scheme is the chosen one if that counts, and else the only one that can place
such calls. -/
theorem outgoingFor?_eq_some_iff {scheme : String} {handle : Handle} :
    registry.outgoingFor? device caller (some scheme) = some handle ↔
      registry.CountsAsDefault device caller scheme handle ∨
        (∀ other, ¬ registry.CountsAsDefault device caller scheme other) ∧
          registry.callCapableHandles device caller (some scheme) false = [handle] := by
  rw [outgoingFor?_eq, visibleAccount?_chosenOutgoing?]
  by_cases fits : (registry.visibleAccount? device caller registry.catalog.defaultOutgoing).any
      (fun account => (some scheme).any account.supports) = true
  · obtain ⟨account, visible, supports⟩ := (Option.any_eq_true _ _).mp fits
    obtain ⟨other, chosen⟩ : ∃ other, registry.catalog.defaultOutgoing = some other := by
      cases named : registry.catalog.defaultOutgoing with
      | none => exact absurd visible (by rw [named]; exact nofun)
      | some other => exact ⟨other, rfl⟩
    have counts : registry.CountsAsDefault device caller scheme other :=
      ⟨chosen, account, chosen ▸ visible, supports⟩
    have isChosen : registry.chosenOutgoing? device caller = some other := by
      rw [chosenOutgoing?, visible, if_pos Option.isSome_some, chosen]
    rw [if_pos fits, isChosen]
    constructor
    · rintro ⟨rfl⟩
      exact .inl counts
    · rintro (⟨isNamed, -⟩ | ⟨noneCounts, -⟩)
      · exact chosen.symm.trans isNamed
      · exact absurd counts (noneCounts other)
  · have noneCounts (other : Handle) : ¬ registry.CountsAsDefault device caller scheme other := by
      rintro ⟨chosen, account, visible, supports⟩
      refine fits ((Option.any_eq_true _ _).mpr ⟨account, ?_, supports⟩)
      rw [chosen, visible]
    rw [if_neg fits, only?_eq_some_iff]
    exact ⟨fun only => .inr ⟨noneCounts, only⟩,
      fun either => either.elim (fun counts => absurd counts (noneCounts handle)) And.right⟩

/-! ## The manager -/

variable (registry device caller)

/-- The manager that was chosen counts for the caller, who sees its account, and it resolves. -/
structure CountsAsManager (manager : Handle) : Prop where
  chosen : registry.catalog.simCallManager = some manager
  visible : (registry.visibleAccount? device caller (some manager)).isSome = true
  resolves : device.resolves manager = true

variable {registry device caller}

theorem CountsAsManager.callManager?_eq
    {manager : Handle}
    (counts : registry.CountsAsManager device caller manager) :
    registry.callManager? device caller = some manager := by
  unfold callManager?
  dsimp only
  rw [counts.chosen, counts.visible, Option.any_some, counts.resolves, Bool.and_self, if_pos rfl]

/-- Where no chosen manager counts, it is the one that the device is set to. -/
theorem callManager?_eq_usualManager?
    (noneCounts : ∀ manager, ¬ registry.CountsAsManager device caller manager) :
    registry.callManager? device caller = registry.usualManager? device caller := by
  unfold callManager?
  refine if_neg fun counts => ?_
  obtain ⟨visible, resolves⟩ := (Bool.and_eq_true _ _).mp counts
  obtain ⟨manager, chosen, resolves⟩ := (Option.any_eq_true _ _).mp resolves
  rw [chosen] at visible
  exact noneCounts manager ⟨chosen, visible, resolves⟩

variable (registry device caller)

/-- The manager stands in for one that was chosen: the device is set to its component, which is
installed for all scopes or for the caller, and it is the first of that component in the list of
all accounts. -/
structure StandsInAsManager (manager : Handle) : Prop where
  component : Component.ofText? device.settings.defaultManager = some manager.component
  installed : device.installs.resolve manager.component none ≠ [] ∨
    device.installs.resolve manager.component (some caller) ≠ []
  first : (registry.allHandles device caller).find?
    (fun handle => handle.component = manager.component) = some manager

variable {registry device caller}

theorem isInstalledFor_iff {component : Component} :
    isInstalledFor device caller component = true ↔
      device.installs.resolve component none ≠ [] ∨
        device.installs.resolve component (some caller) ≠ [] := by
  rw [isInstalledFor, Bool.or_eq_true, Bool.not_eq_true', Bool.not_eq_true',
    List.isEmpty_eq_false_iff, List.isEmpty_eq_false_iff]

theorem usualManager?_eq_some_iff {manager : Handle} :
    registry.usualManager? device caller = some manager ↔
      registry.StandsInAsManager device caller manager := by
  unfold usualManager?
  constructor
  · intro named
    cases set : Component.ofText? device.settings.defaultManager with
    | none => exact absurd named (by simp [set])
    | some component =>
        simp only [set] at named
        by_cases installed : isInstalledFor device caller component = true
        · rw [if_pos installed] at named
          have wanted := List.find?_some named
          obtain rfl : manager.component = component := of_decide_eq_true wanted
          exact ⟨set, isInstalledFor_iff.mp installed, named⟩
        · rw [if_neg installed] at named
          exact absurd named (by simp)
  · rintro ⟨set, installed, first⟩
    rw [set]
    exact (if_pos (isInstalledFor_iff.mpr installed)).trans first

/-- The manager is the chosen one if that counts, and else the one that stands in for it. -/
theorem callManager?_eq_some_iff {manager : Handle} :
    registry.callManager? device caller = some manager ↔
      registry.CountsAsManager device caller manager ∨
        (∀ other, ¬ registry.CountsAsManager device caller other) ∧
          registry.StandsInAsManager device caller manager := by
  by_cases counts : ∃ other, registry.CountsAsManager device caller other
  · obtain ⟨other, counts⟩ := counts
    rw [counts.callManager?_eq]
    constructor
    · rintro ⟨rfl⟩
      exact .inl counts
    · rintro (same | ⟨noneCounts, -⟩)
      · exact counts.chosen.symm.trans same.chosen
      · exact absurd counts (noneCounts other)
  · rw [not_exists] at counts
    rw [callManager?_eq_usualManager? counts, usualManager?_eq_some_iff]
    exact ⟨fun standsIn => .inr ⟨counts, standsIn⟩,
      fun either => either.elim (fun chosen => absurd chosen (counts manager)) And.right⟩

end Registry

end PhoneAccounts

import Mathlib.Data.List.Basic
import PhoneAccounts.Proofs.Keyed.History
import PhoneAccounts.Registry.Query

/-!
Contract: resolution as a function of what was installed and taken back.

A component may be installed for all scopes and for each single scope, and every one of these
installs has a history of its own.  It answers if it was installed last and not taken back since,
with the permission it was installed with last, and it keeps the place that it had when it was
installed where it was not.

Owns: `Call`, `after`, and what resolution and the check of bind permissions say after any calls.

Does not own: what the check is for (see `PhoneAccounts.Registry.Change`).
-/

namespace PhoneAccounts

namespace Installs

/-- Something is installed, or taken back. -/
inductive Call where
  | install (component : Component) (scope : Option Scope) (permission : Option String)
  | uninstall (component : Component) (scope : Option Scope)
deriving DecidableEq, Repr

namespace Call

def run (installs : Installs) : Call → Installs
  | .install component scope permission => installs.install component scope permission
  | .uninstall component scope => installs.uninstall component scope

/-- The call on the permissions, which stand under a component and a scope each. -/
def keyed : Call → Keyed.Call (Component × Option Scope) (Option String)
  | .install component scope permission => .put (component, scope) permission
  | .uninstall component scope => .erase (component, scope)

end Call

/-- What is installed after calls on a device without connection services. -/
def after (calls : List Call) : Installs :=
  calls.foldl Call.run none

/-- The permission of the last install for exactly this scope, or for all, if no call has taken it
back since. -/
def permission? (calls : List Call) (component : Component) (scope : Option Scope) :
    Option (Option String) :=
  Keyed.lastValue? (component, scope) (calls.map Call.keyed)

theorem entries_run (installs : Installs) (call : Call) :
    (call.run installs).entries = call.keyed.run installs.entries := by
  cases call <;> rfl

theorem entries_after (calls : List Call) :
    (after calls).entries = Keyed.ofCalls (calls.map Call.keyed) := by
  rw [after, Keyed.ofCalls, List.foldl_map]
  exact (List.foldl_hom entries fun installs call => (entries_run installs call).symm).symm

/-- The install under a key answers a look-up for a component and a scope. -/
def isAskedFor (component : Component) (scope : Option Scope)
    (key : Component × Option Scope) : Bool :=
  key.1 = component ∧ answers key.2 scope

/-- Two keys answer: the component for all scopes, and for the one asked for. -/
theorem isAskedFor_iff
    {component : Component}
    {scope : Option Scope}
    {key : Component × Option Scope} :
    isAskedFor component scope key = true ↔
      key = (component, Option.none) ∨ key = (component, scope) := by
  simp only [isAskedFor, answers, Bool.or_eq_true, Option.isNone_iff_eq_none, decide_eq_true_eq,
    Prod.ext_iff, ← and_or_left]

theorem resolve_eq (installs : Installs) (component : Component) (scope : Option Scope) :
    installs.resolve component scope =
      (installs.entries.filter fun entry => isAskedFor component scope entry.1).map fun entry =>
        ⟨component, entry.2⟩ :=
  rfl

/-- What resolves is what stands under the component for all scopes or for the one asked for, in
the order in which it came to stand. -/
theorem resolve_after (calls : List Call) (component : Component) (scope : Option Scope) :
    ∃ standings : List (Keyed.Standing (Component × Option Scope) (Option String)),
      (after calls).resolve component scope =
          standings.map (fun standing => ⟨component, standing.value⟩) ∧
        (∀ standing, standing ∈ standings ↔
          (standing.key = (component, Option.none) ∨ standing.key = (component, scope)) ∧
            standing.HoldsAfter (calls.map Call.keyed)) ∧
        standings.Pairwise fun earlier later => earlier.since < later.since := by
  obtain ⟨standings, all, entries⟩ := Keyed.exists_standings (calls.map Call.keyed)
  refine ⟨standings.filter fun standing => isAskedFor component scope standing.key, ?_,
    fun standing => ?_, all.ordered.filter _⟩
  · rw [resolve_eq, entries_after, entries, List.filter_map, List.map_map]
    rfl
  · rw [List.mem_filter, all.mem_iff, isAskedFor_iff, and_comm]

theorem mem_resolve_after_iff
    {calls : List Call}
    {component : Component}
    {scope : Option Scope}
    {service : Service} :
    service ∈ (after calls).resolve component scope ↔
      service.component = component ∧ ∃ installed, (installed = Option.none ∨ installed = scope) ∧
        permission? calls component installed = some service.permission := by
  obtain ⟨standings, same, mem_iff, -⟩ := resolve_after calls component scope
  rw [same, List.mem_map]
  constructor
  · rintro ⟨standing, member, rfl⟩
    obtain ⟨asked, holds⟩ := (mem_iff standing).mp member
    refine ⟨rfl, standing.key.2, ?_, ?_⟩
    · exact asked.imp (congrArg Prod.snd) (congrArg Prod.snd)
    · have isComponent : standing.key.1 = component :=
        asked.elim (congrArg Prod.fst) (congrArg Prod.fst)
      rw [permission?, ← isComponent]
      exact holds.value
  · rintro ⟨isComponent, installed, asked, known⟩
    obtain ⟨since, holds⟩ := Keyed.exists_holdsAfter_iff.mpr known
    refine ⟨_, (mem_iff _).mpr ⟨?_, holds⟩, ?_⟩
    · exact asked.imp (congrArg (Prod.mk component)) (congrArg (Prod.mk component))
    · cases service
      exact congrArg (Service.mk · _) isComponent.symm

/-- Without a scope the services are among those with one, in the same order. -/
theorem resolve_none_sublist (installs : Installs) (component : Component) (scope : Option Scope) :
    (installs.resolve component Option.none).Sublist (installs.resolve component scope) := by
  rw [resolve_eq, resolve_eq]
  refine List.Sublist.map _ (List.monotone_filter_right installs.entries ?_)
  intro entry isAsked
  rw [isAskedFor_iff, or_self] at isAsked
  exact isAskedFor_iff.mpr (.inl isAsked)

end Installs

theorem Service.requiresBind_iff {service : Service} :
    service.requiresBind = true ↔
      service.permission = some Service.bindPermission ∨
        service.permission = some Service.olderBindPermission := by
  rw [Service.requiresBind, decide_eq_true_eq]

/-- The check of bind permissions holds if the component is installed for all scopes or for the
one of the handle, and each of these installs requires a bind permission. -/
theorem Registry.requiresBind_after_iff
    (calls : List Installs.Call)
    (device : Device)
    (handle : Handle) :
    Registry.requiresBind { device with installs := Installs.after calls } handle = true ↔
      (∃ scope permission, (scope = none ∨ scope = handle.scope) ∧
        Installs.permission? calls handle.component scope = some permission) ∧
      ∀ scope permission, (scope = none ∨ scope = handle.scope) →
        Installs.permission? calls handle.component scope = some permission →
          permission = some Service.bindPermission ∨
            permission = some Service.olderBindPermission := by
  rw [requiresBind, Bool.and_eq_true, Bool.not_eq_true', List.isEmpty_eq_false_iff_exists_mem,
    List.all_eq_true]
  simp only [Service.requiresBind_iff, Installs.mem_resolve_after_iff]
  refine and_congr ⟨?_, ?_⟩ ⟨?_, ?_⟩
  · rintro ⟨service, -, scope, asked, known⟩
    exact ⟨scope, service.permission, asked, known⟩
  · rintro ⟨scope, permission, asked, known⟩
    exact ⟨⟨handle.component, permission⟩, rfl, scope, asked, known⟩
  · intro all scope permission asked known
    exact all ⟨handle.component, permission⟩ ⟨rfl, scope, asked, known⟩
  · rintro all service ⟨-, scope, asked, known⟩
    exact all scope service.permission asked known

/-- What any calls make of resolution.

For a component and a scope the services are those of the two keys, for all scopes and for this
one, whose last call is an install, each once and with the permission of this last install, in the
order in which their installs have stood without a break.  With no scope asked for there is the
first key only, and its service is among those of every scope.  The check of bind permissions holds
of a handle if one of its keys is installed and each of them that is requires a bind permission. -/
theorem Registry.resolution_follows_calls (calls : List Installs.Call) :
    (∀ (component : Component) (scope : Option Scope),
      ∃ standings : List (Keyed.Standing (Component × Option Scope) (Option String)),
        (Installs.after calls).resolve component scope =
            standings.map (fun standing => ⟨component, standing.value⟩) ∧
          (∀ standing, standing ∈ standings ↔
            (standing.key = (component, none) ∨ standing.key = (component, scope)) ∧
              standing.HoldsAfter (calls.map Installs.Call.keyed)) ∧
          standings.Pairwise fun earlier later => earlier.since < later.since) ∧
    (∀ (component : Component) (scope : Option Scope),
      ((Installs.after calls).resolve component none).Sublist
        ((Installs.after calls).resolve component scope)) ∧
    (∀ (device : Device) (handle : Handle),
      Registry.requiresBind { device with installs := Installs.after calls } handle = true ↔
        (∃ scope permission, (scope = none ∨ scope = handle.scope) ∧
          Installs.permission? calls handle.component scope = some permission) ∧
        ∀ scope permission, (scope = none ∨ scope = handle.scope) →
          Installs.permission? calls handle.component scope = some permission →
            permission = some Service.bindPermission ∨
              permission = some Service.olderBindPermission) :=
  ⟨Installs.resolve_after calls, Installs.resolve_none_sublist (Installs.after calls),
    Registry.requiresBind_after_iff calls⟩

/-- Installing again keeps the place of an install, and taking it back before gives it up. -/
example :
    (Installs.after [
        .install ⟨"com.calls", "Service"⟩ none (some "first"),
        .install ⟨"com.calls", "Service"⟩ (some Scope.owner) (some "second"),
        .install ⟨"com.calls", "Service"⟩ none (some "third"),
        .uninstall ⟨"com.calls", "Service"⟩ (some Scope.owner),
        .install ⟨"com.calls", "Service"⟩ (some Scope.owner) none]).resolve
          ⟨"com.calls", "Service"⟩ (some Scope.owner) =
      [⟨⟨"com.calls", "Service"⟩, some "third"⟩, ⟨⟨"com.calls", "Service"⟩, none⟩] := by
  decide

end PhoneAccounts

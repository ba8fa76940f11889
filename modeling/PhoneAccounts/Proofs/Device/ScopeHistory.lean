import PhoneAccounts.Proofs.Device.ScopeDirectory
import PhoneAccounts.Proofs.Keyed.History

/-!
Contract: scopes and serial numbers as a function of the calls that made the directory.

Scopes are added, given other serial numbers and removed, beginning with the owner under zero.  A
scope is live if the last call on it added it, and has the serial number of that call; its place is
that of the first call which added it after the last one that removed it.

Owns: `Call`, `after` and `HasSerialSince`, and the look-up in both directions after any calls.

Does not own: directories without a history (see `PhoneAccounts.Proofs.Device.ScopeDirectory`).
-/

namespace PhoneAccounts.ScopeDirectory

/-- A scope is added, or given another serial number or parent, or removed. -/
inductive Call where
  | add (scope : Scope) (serial : Option Int) (parent : Option Scope)
  | remove (scope : Scope)
deriving DecidableEq, Repr

namespace Call

def run (directory : ScopeDirectory) : Call → ScopeDirectory
  | .add scope serial parent => directory.add scope serial parent
  | .remove scope => directory.remove scope

/-- The call on the serial numbers; a scope that is added without one gets its own id. -/
def keyed : Call → Keyed.Call Scope Int
  | .add scope serial _ => .put scope (serial.getD scope.id)
  | .remove scope => .erase scope

end Call

/-- The directory that calls make of a new one. -/
def after (isOpen : Bool) (calls : List Call) : ScopeDirectory :=
  calls.foldl Call.run (initial isOpen)

/-- The calls on the serial numbers, beginning with the one that a new directory comes with. -/
def serialCalls (calls : List Call) : List (Keyed.Call Scope Int) :=
  .put Scope.owner 0 :: calls.map Call.keyed

/-- After the calls the scope is live and has the serial number, and it has been live without a
break since the call before which there are so many. -/
def HasSerialSince (calls : List Call) (scope : Scope) (serial : Int) (since : Nat) : Prop :=
  Keyed.Standing.HoldsAfter ⟨scope, since, serial⟩ (serialCalls calls)

instance (calls : List Call) (scope : Scope) (serial : Int) (since : Nat) :
    Decidable (HasSerialSince calls scope serial since) :=
  inferInstanceAs (Decidable (Keyed.Standing.HoldsAfter _ _))

variable {calls : List Call} {scope : Scope} {serial : Int} {isOpen : Bool}

/-! ## Directories as the calls make them -/

theorem serials_run (directory : ScopeDirectory) (call : Call) :
    (call.run directory).serials = call.keyed.run directory.serials := by
  cases call <;> rfl

theorem isOpen_run (directory : ScopeDirectory) (call : Call) :
    (call.run directory).isOpen = directory.isOpen := by
  cases call <;> rfl

theorem serials_after (isOpen : Bool) (calls : List Call) :
    (after isOpen calls).serials = Keyed.ofCalls (serialCalls calls) := by
  rw [after, Keyed.ofCalls, serialCalls, List.foldl_cons, List.foldl_map]
  exact (List.foldl_hom serials fun directory call => (serials_run directory call).symm).symm

theorem isOpen_after (isOpen : Bool) (calls : List Call) :
    (after isOpen calls).isOpen = isOpen := by
  unfold after
  induction calls using List.reverseRecOn with
  | nil => rfl
  | append_singleton calls call inductionHypothesis =>
      rw [List.foldl_append]
      exact (isOpen_run _ call).trans inductionHypothesis

/-- No calls make a directory that lists a scope twice. -/
theorem listsOnce_after (isOpen : Bool) (calls : List Call) : (after isOpen calls).ListsOnce := by
  rw [ListsOnce, serials_after]
  exact Keyed.nodup_keys_ofCalls (serialCalls calls)

theorem mem_serials_after_iff :
    (scope, serial) ∈ (after isOpen calls).serials ↔
      ∃ since, HasSerialSince calls scope serial since := by
  rw [serials_after, Keyed.mem_ofCalls_iff]
  exact Keyed.exists_holdsAfter_iff.symm

/-- A scope has been live since one call only. -/
theorem HasSerialSince.since_eq
    {other : Int}
    {since otherSince : Nat}
    (has : HasSerialSince calls scope serial since)
    (otherHas : HasSerialSince calls scope other otherSince) :
    since = otherSince :=
  congrArg Keyed.Standing.since (Keyed.Standing.HoldsAfter.unique has otherHas rfl)

/-! ## The look-up in both directions -/

theorem HasSerialSince.serialOf_after
    {since : Nat}
    (has : HasSerialSince calls scope serial since) :
    (after isOpen calls).serialOf scope = serial :=
  serialOf_of_mem (listsOnce_after isOpen calls) (mem_serials_after_iff.mpr ⟨since, has⟩)

/-- A number leads to the scope that has had it live for longest, if one has it. -/
theorem scopeOf?_after_eq_of_listed
    (listed : (scope, serial) ∈ (after isOpen calls).serials)
    (other : Scope) :
    (after isOpen calls).scopeOf? serial = some other ↔
      ∃ since, HasSerialSince calls other serial since ∧
        ∀ third thirdSince, HasSerialSince calls third serial thirdSince → since ≤ thirdSince := by
  have isFound : ((after isOpen calls).serials.find? fun entry => entry.2 = serial) ≠ none := by
    intro missing
    exact List.find?_eq_none.mp missing _ listed (decide_eq_true rfl)
  obtain ⟨⟨first, own⟩, found⟩ := Option.ne_none_iff_exists'.mp isFound
  obtain rfl : own = serial := by simpa using List.find?_some found
  rw [scopeOf?, found, Option.some.injEq]
  rw [serials_after] at found
  have earliest (scope : Scope) :
      (Keyed.ofCalls (serialCalls calls)).find? (fun entry => entry.2 = own) = some (scope, own) ↔
        ∃ since, HasSerialSince calls scope own since ∧
          ∀ third thirdSince, HasSerialSince calls third own thirdSince → since ≤ thirdSince := by
    rw [Keyed.find?_ofCalls_eq_some_iff fun value => value = own]
    refine exists_congr fun since => and_congr_right fun _ => ?_
    constructor
    · rintro ⟨-, isEarliest⟩ third thirdSince has
      exact isEarliest _ has (decide_eq_true rfl)
    · intro isEarliest
      refine ⟨decide_eq_true rfl, fun other has same => ?_⟩
      obtain rfl := of_decide_eq_true same
      exact isEarliest other.key other.since has
  rw [← earliest other, found, Option.some.injEq, Prod.mk.injEq]
  exact (and_iff_left rfl).symm

/-- A live scope is found under its serial number if and only if no scope that has been live for
longer has the same one. -/
theorem HasSerialSince.scopeOf?_after_eq_iff
    {since : Nat}
    (has : HasSerialSince calls scope serial since) :
    (after isOpen calls).scopeOf? serial = some scope ↔
      ∀ other otherSince, HasSerialSince calls other serial otherSince → ¬ otherSince < since := by
  rw [scopeOf?_after_eq_of_listed (mem_serials_after_iff.mpr ⟨since, has⟩)]
  constructor
  · rintro ⟨found, foundHas, isEarliest⟩ other otherSince otherHas
    rw [has.since_eq foundHas]
    exact Nat.not_lt.mpr (isEarliest other otherSince otherHas)
  · intro isEarliest
    exact ⟨since, has, fun third thirdSince thirdHas =>
      Nat.not_lt.mp (isEarliest third thirdSince thirdHas)⟩

/-- What a serial number leads to in a closed directory has this number. -/
theorem serialOf_after_of_scopeOf?
    (found : (after false calls).scopeOf? serial = some scope) :
    (after false calls).serialOf scope = serial := by
  rcases cases_of_scopeOf?_eq_some found with listed | ⟨isOpen, -, -⟩
  · exact serialOf_of_mem (listsOnce_after false calls) listed
  · exact absurd isOpen (by rw [isOpen_after]; exact Bool.false_ne_true)

/-- A scope that is not live is found in an open directory under its own id, unless this is the
serial number of a live scope. -/
theorem scopeOf?_serialOf_after_of_not_live
    (notLive : ∀ own since, ¬ HasSerialSince calls scope own since)
    (free : ∀ other since, ¬ HasSerialSince calls other scope.id since) :
    (after true calls).scopeOf? ((after true calls).serialOf scope) = some scope := by
  have unlisted : (after true calls).serials.valueOf? scope = none := by
    rw [Option.eq_none_iff_forall_ne_some]
    intro own known
    obtain ⟨since, has⟩ := mem_serials_after_iff.mp (Keyed.mem_of_valueOf?_eq_some known)
    exact notLive own since has
  have isFree : ((after true calls).serials.find? fun entry => entry.2 = scope.id) = none := by
    rw [List.find?_eq_none]
    rintro ⟨other, own⟩ member same
    obtain rfl := of_decide_eq_true same
    obtain ⟨since, has⟩ := mem_serials_after_iff.mp member
    exact free other since has
  rw [serialOf_of_absent unlisted, isOpen_after, if_pos rfl, scopeOf?, isFree, isOpen_after]
  rfl

/-- What any calls make of the look-up in both directions.

A live scope has the serial number that the last call on it gave it.  In a closed directory a scope
that a number leads to has this number and is led to by it, and a live scope is led to by its own
number exactly if no scope that has been live for longer has the same one.  In an open directory in
which no two live scopes have the same number, every live scope is led to by its own number, and so
is every other scope whose id is the number of no live scope. -/
theorem serialNumbers_identify_liveScopes (calls : List Call) :
    (∀ isOpen scope serial since, HasSerialSince calls scope serial since →
      (after isOpen calls).serialOf scope = serial) ∧
    (∀ serial scope, (after false calls).scopeOf? serial = some scope →
      (after false calls).serialOf scope = serial ∧
        (after false calls).scopeOf? ((after false calls).serialOf scope) = some scope) ∧
    (∀ scope serial since, HasSerialSince calls scope serial since →
      ((after false calls).scopeOf? ((after false calls).serialOf scope) = some scope ↔
        ∀ other otherSince, HasSerialSince calls other serial otherSince →
          ¬ otherSince < since)) ∧
    ((∀ first second serial firstSince secondSince,
        HasSerialSince calls first serial firstSince →
        HasSerialSince calls second serial secondSince → first = second) →
      (∀ scope serial since, HasSerialSince calls scope serial since →
        (after true calls).scopeOf? ((after true calls).serialOf scope) = some scope) ∧
      (∀ scope, (∀ serial since, ¬ HasSerialSince calls scope serial since) →
        (∀ other since, ¬ HasSerialSince calls other scope.id since) →
        (after true calls).scopeOf? ((after true calls).serialOf scope) = some scope)) := by
  refine ⟨fun isOpen scope serial since has => has.serialOf_after, fun serial scope found => ?_,
    fun scope serial since has => ?_, fun distinct => ⟨fun scope serial since has => ?_, ?_⟩⟩
  · have own := serialOf_after_of_scopeOf? found
    exact ⟨own, own.symm ▸ found⟩
  · rw [has.serialOf_after]
    exact has.scopeOf?_after_eq_iff
  · rw [has.serialOf_after, has.scopeOf?_after_eq_iff]
    intro other otherSince otherHas
    obtain rfl := distinct scope other serial since otherSince has otherHas
    exact Nat.not_lt.mpr (Nat.le_of_eq (has.since_eq otherHas))
  · exact fun scope => scopeOf?_serialOf_after_of_not_live

/-- The owner is removed, and another scope gets its number; that scope had a number before and
keeps its place. -/
def reusedNumberCalls : List Call := [
  .add ⟨10⟩ (some 17) none,
  .add ⟨11⟩ none (some ⟨10⟩),
  .remove Scope.owner,
  .add ⟨10⟩ (some 0) none]

/-- The scope with the owner's number is led to by it, and a scope that is not live by its id. -/
theorem reusedNumber_identifies :
    HasSerialSince reusedNumberCalls ⟨10⟩ 0 1 ∧
      (after false reusedNumberCalls).scopeOf? 0 = some ⟨10⟩ ∧
      (after false reusedNumberCalls).serialOf ⟨10⟩ = 0 ∧
      (after true reusedNumberCalls).scopeOf?
        ((after true reusedNumberCalls).serialOf ⟨10⟩) = some ⟨10⟩ ∧
      (after true reusedNumberCalls).scopeOf?
        ((after true reusedNumberCalls).serialOf ⟨17⟩) = some ⟨17⟩ := by
  have has : HasSerialSince reusedNumberCalls ⟨10⟩ 0 1 := by decide
  have found : (after false reusedNumberCalls).scopeOf? 0 = some ⟨10⟩ := by decide
  have listed {scope : Scope} {serial : Int} {since : Nat}
      (has : HasSerialSince reusedNumberCalls scope serial since) :
      (scope, serial) ∈ (after true reusedNumberCalls).serials :=
    mem_serials_after_iff.mpr ⟨since, has⟩
  have areDistinct : ∀ first ∈ (after true reusedNumberCalls).serials,
      ∀ second ∈ (after true reusedNumberCalls).serials,
        first.2 = second.2 → first.1 = second.1 := by
    decide
  have isUnused : ∀ entry ∈ (after true reusedNumberCalls).serials,
      entry.1 ≠ ⟨17⟩ ∧ entry.2 ≠ 17 := by
    decide
  obtain ⟨-, closed, -, whenDistinct⟩ := serialNumbers_identify_liveScopes reusedNumberCalls
  obtain ⟨known, unknown⟩ := whenDistinct fun first second serial _ _ firstHas secondHas =>
    areDistinct _ (listed firstHas) _ (listed secondHas) rfl
  exact ⟨has, found, (closed 0 ⟨10⟩ found).1, known ⟨10⟩ 0 1 has,
    unknown ⟨17⟩ (fun _ _ isLive => (isUnused _ (listed isLive)).1 rfl)
      (fun _ _ isLive => (isUnused _ (listed isLive)).2 rfl)⟩

end PhoneAccounts.ScopeDirectory

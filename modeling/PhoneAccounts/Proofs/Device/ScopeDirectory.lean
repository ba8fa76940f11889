import PhoneAccounts.Device.ScopeDirectory
import PhoneAccounts.Proofs.Keyed

/-!
Contract: scopes looked up by the serial numbers that they have.

A directory is searched by scope and by serial number.  Where no serial number is given twice,
a scope that some number led to is led to by its own number as well; in an open directory this
covers the scopes that it does not know.  A scope with the number that stands for none counts as
one that does not exist, and may share that number.

Owns: `ListsOnce`, `HasDistinctSerials` and `HasDistinctLiveSerials`, and the look-up of serial
numbers that were looked up before.

Does not own: how a directory came about (see `PhoneAccounts.Proofs.Device.ScopeHistory`), and
which scopes an account names (see `PhoneAccounts.Handle`).
-/

namespace PhoneAccounts.ScopeDirectory

/-- No scope is listed twice. -/
def ListsOnce (directory : ScopeDirectory) : Prop :=
  (directory.serials.map Prod.fst).Nodup

/-- No scope is listed twice, and no two of them have the same serial number. -/
structure HasDistinctSerials (directory : ScopeDirectory) : Prop where
  once : directory.ListsOnce
  distinct : (directory.serials.map Prod.snd).Nodup

instance (directory : ScopeDirectory) : Decidable directory.ListsOnce :=
  inferInstanceAs (Decidable (directory.serials.map Prod.fst).Nodup)

instance (directory : ScopeDirectory) : Decidable directory.HasDistinctSerials :=
  decidable_of_iff (directory.ListsOnce ∧ (directory.serials.map Prod.snd).Nodup)
    ⟨fun both => ⟨both.1, both.2⟩, fun holds => ⟨holds.once, holds.distinct⟩⟩

/-- No two scopes that exist have the same serial number. -/
def HasDistinctLiveSerials (directory : ScopeDirectory) : Prop :=
  ∀ first ∈ directory.serials, ∀ second ∈ directory.serials,
    first.2 = second.2 → first.2 ≠ unknownSerial → first.1 = second.1

instance (directory : ScopeDirectory) : Decidable directory.HasDistinctLiveSerials := by
  unfold HasDistinctLiveSerials
  infer_instance

/-! ## Look-ups -/

variable {directory : ScopeDirectory} {scope : Scope} {serial : Int}

/-- A serial number leads to a scope that has it, or in an open directory to the scope that is
called so, if no scope has it. -/
theorem cases_of_scopeOf?_eq_some (found : directory.scopeOf? serial = some scope) :
    (scope, serial) ∈ directory.serials ∨
      directory.isOpen = true ∧ scope = ⟨serial⟩ ∧
        ∀ entry ∈ directory.serials, entry.2 ≠ serial := by
  unfold scopeOf? at found
  cases listed : directory.serials.find? fun entry => entry.2 = serial with
  | some entry =>
      rw [listed] at found
      obtain rfl := Option.some.inj found
      have same : entry.2 = serial := by simpa using List.find?_some listed
      exact .inl (same ▸ List.mem_of_find?_eq_some listed)
  | none =>
      rw [listed] at found
      by_cases isOpen : directory.isOpen = true
      · rw [if_pos isOpen] at found
        refine .inr ⟨isOpen, (Option.some.inj found).symm, ?_⟩
        intro entry member same
        exact List.find?_eq_none.mp listed entry member (decide_eq_true same)
      · rw [if_neg isOpen] at found
        exact absurd found (by simp)

theorem serialOf_of_mem
    (once : directory.ListsOnce)
    (member : (scope, serial) ∈ directory.serials) :
    directory.serialOf scope = serial := by
  rw [serialOf, Keyed.valueOf?_of_mem once member]

theorem serialOf_of_absent (absent : directory.serials.valueOf? scope = none) :
    directory.serialOf scope = if directory.isOpen then scope.id else unknownSerial := by
  rw [serialOf, absent]

theorem find?_serial_of_mem
    {entries : Keyed Scope Int}
    (unique : (entries.map Prod.snd).Nodup)
    (member : (scope, serial) ∈ entries) :
    entries.find? (fun entry => entry.2 = serial) = some (scope, serial) := by
  induction entries with
  | nil => exact absurd member List.not_mem_nil
  | cons entry rest inductionHypothesis =>
      rw [List.map_cons, List.nodup_cons] at unique
      rcases List.mem_cons.mp member with rfl | later
      · exact List.find?_cons_of_pos (decide_eq_true rfl)
      · have different : entry.2 ≠ serial := by
          intro same
          exact unique.1 (same ▸ List.mem_map_of_mem later)
        rw [List.find?_cons_of_neg (by simpa using different)]
        exact inductionHypothesis unique.2 later

/-- With distinct serial numbers a scope is found under the one that it has. -/
theorem HasDistinctSerials.scopeOf?_of_mem
    (distinct : directory.HasDistinctSerials)
    (member : (scope, serial) ∈ directory.serials) :
    directory.scopeOf? serial = some scope := by
  rw [scopeOf?, find?_serial_of_mem distinct.distinct member]

/-- A scope that some serial number led to is found under its own. -/
theorem HasDistinctSerials.scopeOf?_serialOf
    (distinct : directory.HasDistinctSerials)
    (found : directory.scopeOf? serial = some scope) :
    directory.scopeOf? (directory.serialOf scope) = some scope := by
  rcases cases_of_scopeOf?_eq_some found with listed | ⟨isOpen, rfl, -⟩
  · rw [serialOf_of_mem distinct.once listed]
    exact found
  · -- The scope is called like the number; it may still be listed, under another one.
    cases known : directory.serials.valueOf? ⟨serial⟩ with
    | some own =>
        have member := Keyed.mem_of_valueOf?_eq_some known
        rw [serialOf_of_mem distinct.once member]
        exact distinct.scopeOf?_of_mem member
    | none =>
        rw [serialOf_of_absent known, if_pos isOpen]
        exact found

/-- What the serial number of a scope leads to has the same serial number. -/
theorem ListsOnce.serialOf_of_scopeOf?_serialOf
    (once : directory.ListsOnce)
    {other : Scope}
    (found : directory.scopeOf? (directory.serialOf scope) = some other) :
    directory.serialOf other = directory.serialOf scope := by
  rcases cases_of_scopeOf?_eq_some found with listed | ⟨isOpen, rfl, unlisted⟩
  · exact serialOf_of_mem once listed
  · cases known : directory.serials.valueOf? scope with
    | some own =>
        have member := Keyed.mem_of_valueOf?_eq_some known
        exact absurd (serialOf_of_mem once member).symm (unlisted _ member)
    | none =>
        -- Nobody has the number, so it is the name of the scope itself.
        have named : directory.serialOf scope = scope.id := by
          rw [serialOf_of_absent known, if_pos isOpen]
        rw [named]
        exact named

/-- A scope that is known is found under its serial number. -/
theorem HasDistinctSerials.scopeOf?_serialOf_of_isLive
    (distinct : directory.HasDistinctSerials)
    (live : directory.isLive scope = true) :
    directory.scopeOf? (directory.serialOf scope) = some scope := by
  obtain ⟨own, known⟩ := Option.isSome_iff_exists.mp live
  have member := Keyed.mem_of_valueOf?_eq_some known
  rw [serialOf_of_mem distinct.once member]
  exact distinct.scopeOf?_of_mem member

/-- A scope that exists and that some serial number led to is found under its own. -/
theorem HasDistinctLiveSerials.scopeOf?_serialOf
    (distinct : directory.HasDistinctLiveSerials)
    (found : directory.scopeOf? serial = some scope)
    (exist : directory.serialOf scope ≠ unknownSerial) :
    directory.scopeOf? (directory.serialOf scope) = some scope := by
  cases known : directory.serials.valueOf? scope with
  | some own =>
      have isOwn : directory.serialOf scope = own := by rw [serialOf, known]
      have member := Keyed.mem_of_valueOf?_eq_some known
      rw [isOwn] at exist ⊢
      unfold scopeOf?
      cases listed : directory.serials.find? fun entry => entry.2 = own with
      | none => exact absurd (decide_eq_true rfl) (List.find?_eq_none.mp listed _ member)
      | some entry =>
          have same : entry.2 = own := by simpa using List.find?_some listed
          have there := List.mem_of_find?_eq_some listed
          exact congrArg some (distinct entry there _ member same (same ▸ exist))
  | none =>
      rcases cases_of_scopeOf?_eq_some found with listed | ⟨isOpen, rfl, -⟩
      · exact absurd listed (Keyed.notMem_of_valueOf?_eq_none known serial)
      · rw [serialOf_of_absent known, if_pos isOpen]
        exact found

end PhoneAccounts.ScopeDirectory

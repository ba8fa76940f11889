import Mathlib.Data.List.Basic
import Mathlib.Data.List.Induction
import PhoneAccounts.Proofs.Catalog.Entries

/-!
Contract: what is left of a list in which several accounts have one handle.

Putting the accounts one after the other keeps one account for each handle: the last that has it,
at the place of the first.

Owns: `lastOfEach`, that this is what is left, and when nothing is left out.

Does not own: when duplicates are left out (see `PhoneAccounts.Registry.Startup`).
-/

namespace PhoneAccounts.Accounts

theorem withoutDuplicates_concat (accounts : List Account) (account : Account) :
    withoutDuplicates (accounts ++ [account]) = put account (withoutDuplicates accounts) :=
  List.foldl_append

/-- Every handle stays, at its first place. -/
theorem handles_withoutDuplicates (accounts : List Account) :
    (withoutDuplicates accounts).map Account.handle =
      (accounts.map Account.handle).eraseDups := by
  induction accounts using List.reverseRecOn with
  | nil => rfl
  | append_singleton accounts account inductionHypothesis =>
      have handles (handle : Handle) :
          handle ∈ (withoutDuplicates accounts).map Account.handle ↔
            handle ∈ accounts.map Account.handle := by
        rw [inductionHypothesis, List.mem_eraseDups]
      rw [withoutDuplicates_concat, List.map_append, List.eraseDups_append, ← inductionHypothesis]
      by_cases present : account.handle ∈ accounts.map Account.handle
      · rw [map_handle_put_of_present (unique_withoutDuplicates accounts)
          ((handles account.handle).mpr present)]
        simp only [List.map_singleton, List.removeAll, List.filter_cons, List.filter_nil,
          List.elem_eq_mem, present, decide_true, Bool.not_true, Bool.false_eq_true, if_false]
        rw [List.eraseDups_nil, List.append_nil]
      · rw [put_of_absent fun there => present ((handles account.handle).mp there),
          List.map_append]
        simp only [List.map_singleton, List.removeAll, List.filter_cons, List.filter_nil,
          List.elem_eq_mem, present, decide_false, Bool.not_false, if_true]
        rfl

/-- Under each handle stands the last account that has it. -/
theorem find?_withoutDuplicates (handle : Handle) (accounts : List Account) :
    find? handle (withoutDuplicates accounts) = find? handle accounts.reverse := by
  induction accounts using List.reverseRecOn with
  | nil => rfl
  | append_singleton accounts account inductionHypothesis =>
      rw [withoutDuplicates_concat, find?_put, List.reverse_concat, find?_cons,
        inductionHypothesis]

/-- For each handle the last account that has it, in the order in which the handles come. -/
def lastOfEach (accounts : List Account) : List Account :=
  (accounts.map Account.handle).eraseDups.filterMap fun handle => find? handle accounts.reverse

/-- With unique handles, the accounts are what their handles find. -/
theorem filterMap_find?_of_unique
    {accounts : List Account}
    (unique : Unique accounts) :
    (accounts.map Account.handle).filterMap (fun handle => find? handle accounts) = accounts := by
  have finds : ∀ account ∈ accounts, find? account.handle accounts = some account :=
    fun account member => find?_handle_of_mem unique member
  rw [List.filterMap_map]
  exact (List.filterMap_congr finds).trans List.filterMap_some

theorem withoutDuplicates_eq_lastOfEach (accounts : List Account) :
    withoutDuplicates accounts = lastOfEach accounts := by
  have found := filterMap_find?_of_unique (unique_withoutDuplicates accounts)
  rw [handles_withoutDuplicates] at found
  simp only [find?_withoutDuplicates] at found
  exact found.symm

/-- Accounts are left out exactly where two share a handle. -/
theorem length_withoutDuplicates (accounts : List Account) :
    (withoutDuplicates accounts).length ≤ accounts.length ∧
      ((withoutDuplicates accounts).length = accounts.length → Unique accounts) := by
  induction accounts using List.reverseRecOn with
  | nil => exact ⟨Nat.le_refl 0, fun _ => List.nodup_nil⟩
  | append_singleton accounts account inductionHypothesis =>
      obtain ⟨shorter, unique⟩ := inductionHypothesis
      rw [withoutDuplicates_concat, List.length_append, List.length_singleton]
      by_cases present : account.handle ∈ (withoutDuplicates accounts).map Account.handle
      · have kept := congrArg List.length
          (map_handle_put_of_present (unique_withoutDuplicates accounts) present)
        rw [List.length_map, List.length_map] at kept
        rw [kept]
        exact ⟨by omega, fun same => by omega⟩
      · have longer := congrArg List.length (put_of_absent present)
        rw [List.length_append, List.length_singleton] at longer
        rw [longer]
        refine ⟨by omega, fun same => ?_⟩
        have before : Unique accounts := unique (by omega)
        rw [withoutDuplicates_of_unique before] at present
        rw [← put_of_absent present]
        exact unique_put account before

end PhoneAccounts.Accounts

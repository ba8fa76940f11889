import PhoneAccounts.Catalog.Edit

/-!
Contract: the accounts of some owners among those of all.

Searching, putting, dropping and clearing on behalf of one owner do with the accounts of an
area what they do with all accounts: inside the area the same, outside of it nothing.  None of
this needs unique handles, since equal handles have the same owner.

Owns: `Owner`, `Accounts.inArea`, and how each change to the list is seen in an area.

Does not own: which owners a registry serves.
-/

namespace PhoneAccounts

/-- Who provides an account: a package in a scope. -/
abbrev Owner := String × Option Scope

def Handle.owner (handle : Handle) : Owner :=
  (handle.package, handle.scope)

namespace Accounts

/-- The accounts of the owners in an area, in their order. -/
def inArea (area : Owner → Bool) (accounts : List Account) : List Account :=
  accounts.filter fun account => area account.handle.owner

variable {area : Owner → Bool} {package : String} {scope : Option Scope}

theorem inArea_cons (account : Account) (rest : List Account) :
    inArea area (account :: rest) =
      if area account.handle.owner then account :: inArea area rest else inArea area rest :=
  List.filter_cons

theorem find?_inArea
    {handle : Handle}
    (inside : area handle.owner = true)
    (accounts : List Account) :
    find? handle (inArea area accounts) = find? handle accounts := by
  induction accounts with
  | nil => rfl
  | cons first rest inductionHypothesis =>
      rw [inArea_cons, find?_cons]
      by_cases here : first.handle = handle
      · rw [here, if_pos inside, find?_cons]
        simp only [here, if_true]
      · rw [if_neg here]
        by_cases kept : area first.handle.owner = true
        · rw [if_pos kept, find?_cons, if_neg here, inductionHypothesis]
        · rw [if_neg kept, inductionHypothesis]

/-! ## Putting -/

theorem inArea_put_of_inside
    {account : Account}
    (inside : area account.handle.owner = true)
    (accounts : List Account) :
    inArea area (put account accounts) = put account (inArea area accounts) := by
  induction accounts with
  | nil =>
      show inArea area [account] = [account]
      rw [inArea_cons, if_pos inside]
      rfl
  | cons first rest inductionHypothesis =>
      rw [put, inArea_cons]
      by_cases here : first.handle = account.handle
      · have kept : area first.handle.owner = true := here ▸ inside
        rw [if_pos here, if_pos kept, inArea_cons, if_pos inside, put, if_pos here]
      · rw [if_neg here, inArea_cons, inductionHypothesis]
        by_cases kept : area first.handle.owner = true
        · rw [if_pos kept, if_pos kept, put, if_neg here]
        · rw [if_neg kept, if_neg kept]

theorem inArea_put_of_outside
    {account : Account}
    (outside : area account.handle.owner = false)
    (accounts : List Account) :
    inArea area (put account accounts) = inArea area accounts := by
  have dropped : ¬ area account.handle.owner = true := by rw [outside]; exact Bool.false_ne_true
  induction accounts with
  | nil =>
      show inArea area [account] = []
      rw [inArea_cons, if_neg dropped]
      rfl
  | cons first rest inductionHypothesis =>
      rw [put]
      by_cases here : first.handle = account.handle
      · rw [if_pos here, inArea_cons, inArea_cons, here, if_neg dropped, if_neg dropped]
      · rw [if_neg here, inArea_cons, inArea_cons, inductionHypothesis]

/-! ## Dropping -/

theorem inArea_drop_of_inside
    {handle : Handle}
    (inside : area handle.owner = true)
    (accounts : List Account) :
    inArea area (drop handle accounts) = drop handle (inArea area accounts) := by
  induction accounts with
  | nil => rfl
  | cons first rest inductionHypothesis =>
      unfold drop at inductionHypothesis ⊢
      by_cases here : first.handle = handle
      · have kept : area first.handle.owner = true := here ▸ inside
        rw [List.eraseP_cons_of_pos (by simpa using here), inArea_cons, if_pos kept,
          List.eraseP_cons_of_pos (by simpa using here)]
      · rw [List.eraseP_cons_of_neg (by simpa using here), inArea_cons, inArea_cons,
          inductionHypothesis]
        by_cases kept : area first.handle.owner = true
        · rw [if_pos kept, if_pos kept, List.eraseP_cons_of_neg (by simpa using here)]
        · rw [if_neg kept, if_neg kept]

theorem inArea_drop_of_outside
    {handle : Handle}
    (outside : area handle.owner = false)
    (accounts : List Account) :
    inArea area (drop handle accounts) = inArea area accounts := by
  have dropped : ¬ area handle.owner = true := by rw [outside]; exact Bool.false_ne_true
  induction accounts with
  | nil => rfl
  | cons first rest inductionHypothesis =>
      unfold drop at inductionHypothesis ⊢
      by_cases here : first.handle = handle
      · rw [List.eraseP_cons_of_pos (by simpa using here), inArea_cons, here, if_neg dropped]
      · rw [List.eraseP_cons_of_neg (by simpa using here), inArea_cons, inArea_cons,
          inductionHypothesis]

/-! ## Clearing -/

theorem isOwnedBy_iff (account : Account) :
    isOwnedBy package scope account = true ↔ account.handle.owner = (package, scope) := by
  rw [isOwnedBy, Handle.owner, decide_eq_true_iff, Prod.mk.injEq]

theorem inArea_clear (accounts : List Account) :
    inArea area (clear package scope accounts) = clear package scope (inArea area accounts) := by
  rw [inArea, inArea, clear, clear, List.filter_filter, List.filter_filter]
  simp only [Bool.and_comm]

/-- There is something to clear in the area, or nowhere. -/
theorem any_isOwnedBy_inArea
    (inside : area (package, scope) = true)
    (accounts : List Account) :
    (inArea area accounts).any (isOwnedBy package scope) =
      accounts.any (isOwnedBy package scope) := by
  rw [inArea, List.any_filter]
  congr 1
  funext account
  by_cases owned : isOwnedBy package scope account = true
  · rw [(isOwnedBy_iff account).mp owned, inside, Bool.true_and]
  · rw [Bool.eq_false_iff.mpr owned, Bool.and_false]

theorem inArea_clear_of_outside
    (outside : area (package, scope) = false)
    (accounts : List Account) :
    inArea area (clear package scope accounts) = inArea area accounts := by
  rw [inArea_clear, clear, List.filter_eq_self]
  intro account member
  have kept : area account.handle.owner = true := (List.mem_filter.mp member).2
  have different : ¬ isOwnedBy package scope account = true := by
    intro owned
    rw [(isOwnedBy_iff account).mp owned, outside] at kept
    exact Bool.false_ne_true kept
  rw [Bool.eq_false_iff.mpr different, Bool.not_false]

end Accounts

end PhoneAccounts

import PhoneAccounts.Catalog

/-!
Contract: the changes to a list of accounts.

A handle names at most one account of a catalog that is in use; these changes keep it so.

Owns: putting, dropping, switching and clearing accounts, and their view by handle.

Does not own: when a change is allowed (see `PhoneAccounts.Registry.Change`).
-/

namespace PhoneAccounts.Accounts

/-- The first account with a handle. -/
def find? (handle : Handle) (accounts : List Account) : Option Account :=
  accounts.find? fun account => account.handle = handle

/-- Puts an account in the place of the one with its handle, or at the end. -/
def put (account : Account) : List Account → List Account
  | [] => [account]
  | first :: rest =>
      if first.handle = account.handle then account :: rest else first :: put account rest

def drop (handle : Handle) (accounts : List Account) : List Account :=
  accounts.eraseP fun account => account.handle = handle

def isOwnedBy (package : String) (scope : Option Scope) (account : Account) : Bool :=
  account.handle.package = package ∧ account.handle.scope = scope

def clear (package : String) (scope : Option Scope) (accounts : List Account) : List Account :=
  accounts.filter fun account => !isOwnedBy package scope account

/-- Keeps the last account of each handle, at the place of the first. -/
def withoutDuplicates (accounts : List Account) : List Account :=
  accounts.foldl (fun kept account => put account kept) []

/-! ## The view by handle -/

@[simp] theorem find?_nil (handle : Handle) : find? handle [] = none := rfl

theorem find?_cons (handle : Handle) (account : Account) (rest : List Account) :
    find? handle (account :: rest) =
      if account.handle = handle then some account else find? handle rest := by
  by_cases same : account.handle = handle <;> simp [find?, same]

theorem find?_put (handle : Handle) (account : Account) (accounts : List Account) :
    find? handle (put account accounts) =
      if account.handle = handle then some account else find? handle accounts := by
  induction accounts with
  | nil => simp [put, find?_cons]
  | cons first rest inductionHypothesis =>
      by_cases here : first.handle = account.handle
      · by_cases same : account.handle = handle
        · simp [put, here, find?_cons, same]
        · simp [put, here, find?_cons, same]
      · have kept : put account (first :: rest) = first :: put account rest := by
          simp [put, here]
        rw [kept, find?_cons, find?_cons, inductionHypothesis]
        by_cases found : first.handle = handle
        · have different : ¬ account.handle = handle :=
            fun equal => here (found.trans equal.symm)
          simp [found, different]
        · simp [found]

end PhoneAccounts.Accounts

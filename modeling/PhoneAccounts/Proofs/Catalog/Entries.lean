import PhoneAccounts.Catalog.Edit
import PhoneAccounts.Keyed

/-!
Contract: the accounts of a catalog as a map from handles, in insertion order.

The list is searched for the first account with a handle, for the place at which one is put,
for one to drop, and for all to clear.  These mean the same entries as long as no two
accounts share a handle, and every change to the list keeps it so.

Owns: `Unique` with its preservation, `entries`, and each change to the list as a change to
the map.

Does not own: the changes that a registry makes of them (see
`PhoneAccounts.Proofs.Session.OrderedMap`).
-/

namespace PhoneAccounts

/-- Changes the value of a key at its place. -/
def Keyed.modify
    {Key Value : Type}
    [DecidableEq Key]
    (key : Key)
    (change : Value → Value)
    (entries : Keyed Key Value) :
    Keyed Key Value :=
  entries.map fun entry => if entry.1 = key then (entry.1, change entry.2) else entry

namespace Accounts

/-- No two accounts share a handle. -/
def Unique (accounts : List Account) : Prop :=
  (accounts.map Account.handle).Nodup

instance (accounts : List Account) : Decidable (Unique accounts) := by
  unfold Unique
  infer_instance

/-- Each account under its handle. -/
def entries (accounts : List Account) : Keyed Handle Account :=
  accounts.map fun account => (account.handle, account)

/-! ## Look-ups -/

theorem find?_eq_valueOf?_entries (handle : Handle) (accounts : List Account) :
    find? handle accounts = (entries accounts).valueOf? handle := by
  induction accounts with
  | nil => rfl
  | cons first rest inductionHypothesis =>
      rw [find?_cons, inductionHypothesis]
      rfl

theorem find?_eq_none_iff (handle : Handle) (accounts : List Account) :
    find? handle accounts = none ↔ handle ∉ accounts.map Account.handle := by
  simp [find?]

theorem mem_and_handle_of_find?_eq_some
    {handle : Handle}
    {account : Account}
    {accounts : List Account}
    (found : find? handle accounts = some account) :
    account ∈ accounts ∧ account.handle = handle :=
  ⟨List.mem_of_find?_eq_some found, by simpa using List.find?_some found⟩

/-- With unique handles, every account is the one that its handle finds. -/
theorem find?_handle_of_mem
    {account : Account}
    {accounts : List Account}
    (unique : Unique accounts)
    (member : account ∈ accounts) :
    find? account.handle accounts = some account := by
  induction accounts with
  | nil => exact absurd member List.not_mem_nil
  | cons first rest inductionHypothesis =>
      unfold Unique at unique
      rw [List.map_cons, List.nodup_cons] at unique
      rw [find?_cons]
      rcases List.mem_cons.mp member with equal | later
      · rw [if_pos (by rw [equal]), equal]
      · have different : first.handle ≠ account.handle := by
          intro same
          exact unique.1 (same ▸ List.mem_map_of_mem later)
        rw [if_neg different]
        exact inductionHypothesis unique.2 later

/-! ## Putting -/

theorem eq_or_mem_of_mem_put
    {account other : Account}
    {accounts : List Account}
    (member : other ∈ put account accounts) :
    other = account ∨ other ∈ accounts := by
  induction accounts with
  | nil => exact .inl (List.mem_singleton.mp member)
  | cons first rest inductionHypothesis =>
      rw [put] at member
      by_cases here : first.handle = account.handle
      · rw [if_pos here] at member
        exact (List.mem_cons.mp member).imp_right (List.mem_cons_of_mem first)
      · rw [if_neg here] at member
        rcases List.mem_cons.mp member with same | later
        · exact .inr (same ▸ List.mem_cons_self)
        · exact (inductionHypothesis later).imp_right (List.mem_cons_of_mem first)

theorem put_of_absent
    {account : Account}
    {accounts : List Account}
    (absent : account.handle ∉ accounts.map Account.handle) :
    put account accounts = accounts ++ [account] := by
  induction accounts with
  | nil => rfl
  | cons first rest inductionHypothesis =>
      rw [List.map_cons, List.mem_cons, not_or] at absent
      have different : first.handle ≠ account.handle := fun same => absent.1 same.symm
      rw [put, if_neg different, inductionHypothesis absent.2]
      rfl

/-- Replacing the account with a handle changes nothing where there is none. -/
theorem map_replace_of_absent
    {account : Account}
    {accounts : List Account}
    (absent : account.handle ∉ accounts.map Account.handle) :
    (accounts.map fun other => if other.handle = account.handle then account else other) =
      accounts := by
  refine Eq.trans (List.map_congr_left ?_) (List.map_id accounts)
  intro other member
  have different : other.handle ≠ account.handle := by
    intro same
    exact absent (same ▸ List.mem_map_of_mem member)
  rw [if_neg different, id]

theorem put_of_present
    {account : Account}
    {accounts : List Account}
    (unique : Unique accounts)
    (present : account.handle ∈ accounts.map Account.handle) :
    put account accounts =
      accounts.map fun other => if other.handle = account.handle then account else other := by
  induction accounts with
  | nil => exact absurd present List.not_mem_nil
  | cons first rest inductionHypothesis =>
      unfold Unique at unique
      rw [List.map_cons, List.nodup_cons] at unique
      rw [put, List.map_cons]
      by_cases here : first.handle = account.handle
      · -- No later account has the handle, so replacing goes on without effect.
        rw [if_pos here, if_pos here, map_replace_of_absent (here ▸ unique.1)]
      · rw [if_neg here, if_neg here]
        rw [List.map_cons] at present
        have later : account.handle ∈ rest.map Account.handle :=
          (List.mem_cons.mp present).resolve_left fun same => here same.symm
        rw [inductionHypothesis unique.2 later]

/-- Putting an account keeps all handles where its own is there. -/
theorem map_handle_put_of_present
    {account : Account}
    {accounts : List Account}
    (unique : Unique accounts)
    (present : account.handle ∈ accounts.map Account.handle) :
    (put account accounts).map Account.handle = accounts.map Account.handle := by
  rw [put_of_present unique present, List.map_map]
  apply List.map_congr_left
  intro other _
  rw [Function.comp_apply]
  by_cases same : other.handle = account.handle
  · rw [if_pos same, same]
  · rw [if_neg same]

theorem unique_put
    {accounts : List Account}
    (account : Account)
    (unique : Unique accounts) :
    Unique (put account accounts) := by
  unfold Unique
  by_cases present : account.handle ∈ accounts.map Account.handle
  · rw [map_handle_put_of_present unique present]
    exact unique
  · rw [put_of_absent present, List.map_append, List.nodup_append]
    refine ⟨unique, by simp, ?_⟩
    intro left member right last same
    rw [List.map_singleton, List.mem_singleton] at last
    exact present (last ▸ same ▸ member)

/-! ## Dropping and clearing -/

theorem unique_filter
    {accounts : List Account}
    (keeps : Account → Bool)
    (unique : Unique accounts) :
    Unique (accounts.filter keeps) :=
  (List.filter_sublist.map Account.handle).nodup unique

theorem drop_eq_filter
    {accounts : List Account}
    (handle : Handle)
    (unique : Unique accounts) :
    drop handle accounts = accounts.filter fun account => account.handle ≠ handle := by
  induction accounts with
  | nil => rfl
  | cons first rest inductionHypothesis =>
      unfold Unique at unique
      rw [List.map_cons, List.nodup_cons] at unique
      unfold drop at inductionHypothesis ⊢
      by_cases here : first.handle = handle
      · have others : ∀ account ∈ rest, account.handle ≠ handle := by
          intro account member same
          exact unique.1 (here ▸ same ▸ List.mem_map_of_mem member)
        rw [List.eraseP_cons_of_pos (by simpa using here),
          List.filter_cons_of_neg (by simpa using here)]
        symm
        rw [List.filter_eq_self]
        intro account member
        simpa using others account member
      · rw [List.eraseP_cons_of_neg (by simpa using here),
          List.filter_cons_of_pos (by simpa using here), inductionHypothesis unique.2]

/-- Dropping by handle and erasing the account that the handle finds are the same, also where
handles are not unique: what equals that account has its handle. -/
theorem drop_eq_erase
    {handle : Handle}
    {account : Account}
    {accounts : List Account}
    (found : find? handle accounts = some account) :
    drop handle accounts = accounts.erase account := by
  induction accounts with
  | nil => exact absurd found (by simp)
  | cons first rest inductionHypothesis =>
      rw [find?_cons] at found
      unfold drop at inductionHypothesis ⊢
      by_cases here : first.handle = handle
      · rw [if_pos here] at found
        obtain rfl := Option.some.inj found
        rw [List.eraseP_cons_of_pos (by simpa using here), List.erase_cons_head]
      · rw [if_neg here] at found
        have different : first ≠ account := by
          intro same
          exact here (same ▸ (mem_and_handle_of_find?_eq_some found).2)
        rw [List.eraseP_cons_of_neg (by simpa using here),
          List.erase_cons_tail (by simpa using different), inductionHypothesis found]

/-- Putting an account is writing it at the index of the one that its handle finds. -/
theorem put_eq_set_idxOf
    {account known : Account}
    {accounts : List Account}
    (found : find? account.handle accounts = some known) :
    put account accounts = accounts.set (accounts.idxOf known) account := by
  induction accounts with
  | nil => exact absurd found (by simp)
  | cons first rest inductionHypothesis =>
      rw [find?_cons] at found
      rw [put]
      by_cases here : first.handle = account.handle
      · rw [if_pos here] at found ⊢
        obtain rfl := Option.some.inj found
        rw [List.idxOf_cons_self, List.set_cons_zero]
      · rw [if_neg here] at found ⊢
        have different : first ≠ known := by
          intro same
          exact here (same ▸ (mem_and_handle_of_find?_eq_some found).2)
        rw [List.idxOf_cons, beq_false_of_ne different, cond_false, List.set_cons_succ,
          inductionHypothesis found]

/-- With unique handles, hiding accounts and then looking one up is the same as looking it up
and then hiding it. -/
theorem find?_filter
    {accounts : List Account}
    (keeps : Account → Bool)
    (unique : Unique accounts)
    (handle : Handle) :
    find? handle (accounts.filter keeps) = (find? handle accounts).filter keeps := by
  cases found : find? handle (accounts.filter keeps) with
  | some account =>
      obtain ⟨member, rfl⟩ := mem_and_handle_of_find?_eq_some found
      obtain ⟨member, kept⟩ := List.mem_filter.mp member
      rw [find?_handle_of_mem unique member, Option.filter_some, if_pos kept]
  | none =>
      cases original : find? handle accounts with
      | none => rfl
      | some account =>
          obtain ⟨member, rfl⟩ := mem_and_handle_of_find?_eq_some original
          rw [Option.filter_some]
          by_cases kept : keeps account = true
          · have present : account.handle ∈ (accounts.filter keeps).map Account.handle :=
              List.mem_map_of_mem (List.mem_filter.mpr ⟨member, kept⟩)
            exact absurd present ((find?_eq_none_iff _ _).mp found)
          · rw [if_neg kept]

/-! ## Duplicates -/

/-- Putting accounts one after the other keeps the handles unique, whatever they are. -/
theorem unique_foldl_put
    (accounts kept : List Account)
    (unique : Unique kept) :
    Unique (accounts.foldl (fun kept account => put account kept) kept) := by
  induction accounts generalizing kept with
  | nil => exact unique
  | cons first rest inductionHypothesis =>
      exact inductionHypothesis _ (unique_put first unique)

theorem unique_withoutDuplicates (accounts : List Account) :
    Unique (withoutDuplicates accounts) :=
  unique_foldl_put accounts [] List.nodup_nil

theorem mem_of_mem_foldl_put
    {account : Account}
    {accounts kept : List Account}
    (member : account ∈ accounts.foldl (fun kept account => put account kept) kept) :
    account ∈ accounts ∨ account ∈ kept := by
  induction accounts generalizing kept with
  | nil => exact .inr member
  | cons first rest inductionHypothesis =>
      rcases inductionHypothesis member with later | put
      · exact .inl (List.mem_cons_of_mem first later)
      · rcases eq_or_mem_of_mem_put put with rfl | before
        · exact .inl List.mem_cons_self
        · exact .inr before

/-- Dropping duplicates brings no new accounts. -/
theorem mem_of_mem_withoutDuplicates
    {account : Account}
    {accounts : List Account}
    (member : account ∈ withoutDuplicates accounts) :
    account ∈ accounts :=
  (mem_of_mem_foldl_put member).resolve_right List.not_mem_nil

theorem foldl_put_of_unique
    (accounts kept : List Account)
    (unique : Unique (kept ++ accounts)) :
    accounts.foldl (fun kept account => put account kept) kept = kept ++ accounts := by
  induction accounts generalizing kept with
  | nil => rw [List.foldl_nil, List.append_nil]
  | cons first rest inductionHypothesis =>
      have absent : first.handle ∉ kept.map Account.handle := by
        intro present
        unfold Unique at unique
        rw [List.map_append, List.nodup_append] at unique
        exact unique.2.2 _ present _ (by simp) rfl
      have reassociated : kept ++ first :: rest = (kept ++ [first]) ++ rest := by simp
      rw [reassociated] at unique ⊢
      rw [List.foldl_cons, put_of_absent absent]
      exact inductionHypothesis _ unique

/-- Where no two accounts share a handle, there is nothing to leave out. -/
theorem withoutDuplicates_of_unique
    {accounts : List Account}
    (unique : Unique accounts) :
    withoutDuplicates accounts = accounts :=
  foldl_put_of_unique accounts [] unique

/-! ## The changes to the map -/

theorem entries_put_of_absent
    {account : Account}
    {accounts : List Account}
    {handle : Handle}
    (named : account.handle = handle)
    (absent : (entries accounts).valueOf? handle = none) :
    entries (put account accounts) = entries accounts ++ [(handle, account)] := by
  subst named
  rw [← find?_eq_valueOf?_entries, find?_eq_none_iff] at absent
  rw [put_of_absent absent, entries, List.map_append]
  rfl

/-- An account that is put in the place of another is what a change makes of that one. -/
theorem entries_put_of_present
    {account known : Account}
    {accounts : List Account}
    {handle : Handle}
    (change : Account → Account)
    (unique : Unique accounts)
    (named : account.handle = handle)
    (present : (entries accounts).valueOf? handle = some known)
    (changed : account = change known) :
    entries (put account accounts) = (entries accounts).modify handle change := by
  subst named
  rw [← find?_eq_valueOf?_entries] at present
  obtain ⟨member, handle⟩ := mem_and_handle_of_find?_eq_some present
  have known? : account.handle ∈ accounts.map Account.handle :=
    handle ▸ List.mem_map_of_mem member
  rw [put_of_present unique known?]
  unfold entries Keyed.modify
  rw [List.map_map, List.map_map]
  apply List.map_congr_left
  intro other otherMember
  simp only [Function.comp_apply]
  by_cases same : other.handle = account.handle
  · have found := find?_handle_of_mem unique otherMember
    rw [same, present, Option.some.injEq] at found
    rw [if_pos same, if_pos same, ← found, ← changed, handle]
  · rw [if_neg same, if_neg same]

theorem entries_filter
    (keeps : Handle → Bool)
    (accounts : List Account) :
    entries (accounts.filter fun account => keeps account.handle) =
      (entries accounts).filter fun entry => keeps entry.1 := by
  rw [entries, entries, List.filter_map]
  rfl

end Accounts

end PhoneAccounts

import PhoneAccounts.Keyed

/-!
Contract: keyed values as lists of entries.

An entry is what its key finds as long as no key is given twice, and neither giving a key a value
nor erasing one gives a key twice.  A key that is there gets its new value at its place, and one
that is not gets it at the end.

Owns: the keys of the entries, which of them a look-up finds, and what `put` makes of a list.

Does not own: what many calls after one another leave (see `PhoneAccounts.Proofs.Keyed.History`).
-/

namespace PhoneAccounts.Keyed

variable {Key Value : Type} [DecidableEq Key]

theorem mem_of_valueOf?_eq_some
    {key : Key}
    {value : Value}
    {entries : Keyed Key Value}
    (found : entries.valueOf? key = some value) :
    (key, value) ∈ entries := by
  induction entries with
  | nil => exact absurd found (by simp)
  | cons entry rest inductionHypothesis =>
      rw [valueOf?] at found
      by_cases here : entry.1 = key
      · rw [if_pos here] at found
        obtain rfl := Option.some.inj found
        obtain rfl := here
        exact List.mem_cons_self
      · rw [if_neg here] at found
        exact List.mem_cons_of_mem entry (inductionHypothesis found)

theorem notMem_of_valueOf?_eq_none
    {key : Key}
    {entries : Keyed Key Value}
    (absent : entries.valueOf? key = none)
    (value : Value) :
    (key, value) ∉ entries := by
  induction entries with
  | nil => exact List.not_mem_nil
  | cons entry rest inductionHypothesis =>
      rw [valueOf?] at absent
      by_cases here : entry.1 = key
      · rw [if_pos here] at absent
        exact absurd absent (by simp)
      · rw [if_neg here] at absent
        intro member
        rcases List.mem_cons.mp member with rfl | later
        · exact here rfl
        · exact inductionHypothesis absent later

/-- Where no key is given twice, every entry is the one that its key finds. -/
theorem valueOf?_of_mem
    {key : Key}
    {value : Value}
    {entries : Keyed Key Value}
    (unique : (entries.map Prod.fst).Nodup)
    (member : (key, value) ∈ entries) :
    entries.valueOf? key = some value := by
  induction entries with
  | nil => exact absurd member List.not_mem_nil
  | cons entry rest inductionHypothesis =>
      rw [List.map_cons, List.nodup_cons] at unique
      rw [valueOf?]
      rcases List.mem_cons.mp member with rfl | later
      · rw [if_pos rfl]
      · have different : entry.1 ≠ key := by
          intro same
          exact unique.1 (same ▸ List.mem_map_of_mem later)
        rw [if_neg different]
        exact inductionHypothesis unique.2 later

theorem mem_keys_put_iff
    {key other : Key}
    {value : Value}
    {entries : Keyed Key Value} :
    other ∈ (entries.put key value).map Prod.fst ↔
      other = key ∨ other ∈ entries.map Prod.fst := by
  induction entries with
  | nil => rw [put, List.map_cons, List.mem_cons]
  | cons entry rest inductionHypothesis =>
      rw [put]
      by_cases here : entry.1 = key
      · rw [if_pos here, List.map_cons, List.map_cons, List.mem_cons, List.mem_cons, here,
          ← or_assoc, or_self]
      · rw [if_neg here, List.map_cons, List.map_cons, List.mem_cons, List.mem_cons,
          inductionHypothesis]
        exact or_left_comm

theorem nodup_keys_put
    {entries : Keyed Key Value}
    (unique : (entries.map Prod.fst).Nodup)
    (key : Key)
    (value : Value) :
    ((entries.put key value).map Prod.fst).Nodup := by
  induction entries with
  | nil => exact List.pairwise_singleton _ key
  | cons entry rest inductionHypothesis =>
      rw [List.map_cons, List.nodup_cons] at unique
      rw [put]
      by_cases here : entry.1 = key
      · rw [if_pos here, List.map_cons, List.nodup_cons]
        exact here ▸ unique
      · rw [if_neg here, List.map_cons, List.nodup_cons]
        refine ⟨?_, inductionHypothesis unique.2⟩
        intro member
        exact (mem_keys_put_iff.mp member).elim here unique.1

theorem nodup_keys_erase
    {entries : Keyed Key Value}
    (unique : (entries.map Prod.fst).Nodup)
    (key : Key) :
    ((entries.erase key).map Prod.fst).Nodup :=
  unique.sublist (List.filter_sublist.map Prod.fst)

/-- A key that is not there gets its value at the end. -/
theorem put_of_absent
    {key : Key}
    {entries : Keyed Key Value}
    (absent : key ∉ entries.map Prod.fst)
    (value : Value) :
    entries.put key value = entries ++ [(key, value)] := by
  induction entries with
  | nil => rfl
  | cons entry rest inductionHypothesis =>
      rw [List.map_cons, List.mem_cons, not_or] at absent
      rw [put, if_neg fun here => absent.1 here.symm, inductionHypothesis absent.2,
        List.cons_append]

/-- A key that is there once gets its value at its place. -/
theorem put_of_present
    {key : Key}
    {entries : Keyed Key Value}
    (unique : (entries.map Prod.fst).Nodup)
    (present : key ∈ entries.map Prod.fst)
    (value : Value) :
    entries.put key value =
      entries.map fun entry => if entry.1 = key then (key, value) else entry := by
  induction entries with
  | nil => exact absurd present List.not_mem_nil
  | cons entry rest inductionHypothesis =>
      rw [List.map_cons, List.nodup_cons] at unique
      rw [put, List.map_cons]
      by_cases here : entry.1 = key
      · -- The key is in no other entry, so nothing else changes.
        have others : rest.map (fun entry => if entry.1 = key then (key, value) else entry) =
            rest := by
          rw [List.map_congr_left (g := id), List.map_id]
          intro other member
          have different : other.1 ≠ key := by
            intro same
            exact unique.1 (here ▸ same ▸ List.mem_map_of_mem member)
          rw [if_neg different, id]
        rw [if_pos here, if_pos here, others]
      · have later : key ∈ rest.map Prod.fst := by
          rcases List.mem_cons.mp present with same | later
          · exact absurd same.symm here
          · exact later
        rw [if_neg here, if_neg here, inductionHypothesis unique.2 later]

end PhoneAccounts.Keyed

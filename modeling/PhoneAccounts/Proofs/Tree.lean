import PhoneAccounts.Tree.Display

/-!
Contract: looking up the values of a mapping.

The keys that a look-up can find are texts.  Where no key is there twice, the order of the entries
does not matter, and entries under other keys never do.

Owns: the rules of looking up, `AgreeUnder` for mappings that answer alike under some keys, and that
what is found in a tree that can be shown can be shown.

Does not own: which keys a reader looks up (see `PhoneAccounts.Proofs.StateFile.UnknownKeys`).
-/

namespace PhoneAccounts.Tree

theorem isNull_iff (value : Tree) : value.isNull = true ↔ value = .null := by
  cases value <;> simp [isNull]

theorem isTextKey_iff (name : String) (key : Tree) :
    isTextKey name key = true ↔ key = .text name := by
  cases key <;> simp [isTextKey]

theorem find?_cons (name : String) (entry : Tree × Tree) (rest : List (Tree × Tree)) :
    find? name (entry :: rest) =
      if entry.1.isTextKey name then some entry.2 else find? name rest := by
  unfold find?
  rw [List.find?_cons]
  cases entry.1.isTextKey name <;> rfl

/-- Entries in another order answer the same if no key is there twice. -/
theorem find?_perm
    {left right : List (Tree × Tree)}
    (reordered : left.Perm right)
    (distinct : (left.map Prod.fst).Nodup)
    (name : String) :
    find? name left = find? name right := by
  induction reordered with
  | nil => rfl
  | cons entry _ inductionHypothesis =>
      rw [find?_cons, find?_cons, inductionHypothesis (List.nodup_cons.mp distinct).2]
  | swap first second rest =>
      rw [find?_cons, find?_cons, find?_cons, find?_cons]
      by_cases isFirst : first.1.isTextKey name = true
      · by_cases isSecond : second.1.isTextKey name = true
        · -- Both would be the one key that is looked up.
          have same : second.1 = first.1 := by
            rw [(isTextKey_iff name _).mp isFirst, (isTextKey_iff name _).mp isSecond]
          have apart := (List.nodup_cons.mp distinct).1
          exact absurd (List.mem_cons.mpr (.inl same)) apart
        · rw [if_pos isFirst, if_pos isFirst, if_neg isSecond]
      · rw [if_neg isFirst, if_neg isFirst]
  | trans first _ firstHypothesis secondHypothesis =>
      rw [firstHypothesis distinct,
        secondHypothesis (((first.map Prod.fst).nodup_iff).mp distinct)]

/-- Under each of some keys two mappings have alike values, or neither has one. -/
def AgreeUnder
    (alike : String → Tree → Tree → Prop)
    (keys : List String)
    (left right : List (Tree × Tree)) :
    Prop :=
  ∀ key ∈ keys, Option.Rel (alike key) (find? key left) (find? key right)

namespace AgreeUnder

variable {alike : String → Tree → Tree → Prop}
variable {keys : List String}
variable {left right : List (Tree × Tree)}

theorem answers (agree : AgreeUnder alike keys left right) {key : String} (known : key ∈ keys) :
    (find? key left = none ∧ find? key right = none) ∨
      ∃ first second, find? key left = some first ∧ find? key right = some second ∧
        alike key first second := by
  have answer := agree key known
  revert answer
  generalize find? key left = leftAnswer
  generalize find? key right = rightAnswer
  rintro (same | _)
  · exact .inr ⟨_, _, rfl, rfl, same⟩
  · exact .inl ⟨rfl, rfl⟩

theorem refl (same : ∀ key value, alike key value value) (entries : List (Tree × Tree)) :
    AgreeUnder alike keys entries entries := by
  intro key _
  cases find? key entries with
  | none => exact .none
  | some value => exact .some (same key value)

/-- An entry under another key is added. -/
theorem add_unknown
    (agree : AgreeUnder alike keys left right)
    {unknown : Tree}
    (other : ∀ key ∈ keys, unknown ≠ .text key)
    {value : Tree} :
    AgreeUnder alike keys left ((unknown, value) :: right) := by
  intro key known
  have notFound : ¬ unknown.isTextKey key = true :=
    fun found => other key known ((isTextKey_iff key unknown).mp found)
  rw [find?_cons, if_neg notFound]
  exact agree key known

theorem add_unknownText
    (agree : AgreeUnder alike keys left right)
    {name : String}
    (other : name ∉ keys)
    {value : Tree} :
    AgreeUnder alike keys left ((.text name, value) :: right) := by
  apply agree.add_unknown
  intro key known same
  exact other (Tree.text.inj same ▸ known)

theorem cons
    (agree : AgreeUnder alike keys left right)
    {key : String}
    {leftValue rightValue : Tree}
    (same : alike key leftValue rightValue) :
    AgreeUnder alike keys ((.text key, leftValue) :: left) ((.text key, rightValue) :: right) := by
  intro name known
  rw [find?_cons, find?_cons]
  by_cases found : (Tree.text key).isTextKey name = true
  · rw [if_pos found, if_pos found]
    obtain rfl := Tree.text.inj ((isTextKey_iff name _).mp found)
    exact .some same
  · rw [if_neg found, if_neg found]
    exact agree name known

/-- The entries of a mapping are put in another order. -/
theorem reorder
    (agree : AgreeUnder alike keys left right)
    {reordered : List (Tree × Tree)}
    (permuted : right.Perm reordered)
    (distinct : (right.map Prod.fst).Nodup) :
    AgreeUnder alike keys left reordered := by
  intro key known
  rw [← find?_perm permuted distinct]
  exact agree key known

/-! ## Looking up -/

theorem get (agree : AgreeUnder alike keys left right)
    (same : ∀ key value, alike key value value)
    {key : String}
    (known : key ∈ keys) :
    alike key (Tree.get key left) (Tree.get key right) := by
  unfold Tree.get
  rcases agree.answers known with
    ⟨leftNone, rightNone⟩ | ⟨first, second, leftSome, rightSome, given⟩
  · rw [leftNone, rightNone]
    exact same key .null
  · rw [leftSome, rightSome]
    exact given

theorem find?_eq
    (agree : AgreeUnder alike keys left right)
    {key : String}
    (known : key ∈ keys)
    (equal : ∀ first second, alike key first second → first = second) :
    find? key left = find? key right := by
  rcases agree.answers known with ⟨leftNone, rightNone⟩ | ⟨first, second, leftSome, rightSome, same⟩
  · rw [leftNone, rightNone]
  · rw [leftSome, rightSome, equal first second same]

theorem get_eq
    (agree : AgreeUnder alike keys left right)
    {key : String}
    (known : key ∈ keys)
    (equal : ∀ first second, alike key first second → first = second) :
    Tree.get key left = Tree.get key right := by
  unfold Tree.get
  rw [agree.find?_eq known equal]

end AgreeUnder

/-! ## Trees that can be shown -/

theorem areWritable_iff {items : List Tree} :
    areWritable items = true ↔ ∀ item ∈ items, item.isWritable = true := by
  induction items with
  | nil => simp [areWritable]
  | cons item rest inductionHypothesis =>
      rw [areWritable, Bool.and_eq_true, inductionHypothesis, List.forall_mem_cons]

theorem areWritableEntries_iff {entries : List (Tree × Tree)} :
    areWritableEntries entries = true ↔
      ∀ entry ∈ entries, entry.1.isWritable = true ∧ entry.2.isWritable = true := by
  induction entries with
  | nil => simp [areWritableEntries]
  | cons entry rest inductionHypothesis =>
      rw [areWritableEntries, Bool.and_eq_true, Bool.and_eq_true, inductionHypothesis,
        List.forall_mem_cons]

variable {entries : List (Tree × Tree)}

theorem isWritable_of_find?
    (writable : areWritableEntries entries = true)
    {name : String}
    {value : Tree}
    (found : find? name entries = some value) :
    value.isWritable = true := by
  obtain ⟨entry, foundEntry, rfl⟩ := Option.map_eq_some_iff.mp found
  have member := List.mem_of_find?_eq_some foundEntry
  exact (areWritableEntries_iff.mp writable entry member).2

theorem isWritable_get (writable : areWritableEntries entries = true) (name : String) :
    (get name entries).isWritable = true := by
  unfold get
  cases found : find? name entries with
  | none => rfl
  | some value => exact isWritable_of_find? writable found

theorem areWritableEntries_of_entries?
    {value : Tree}
    (writable : value.isWritable = true)
    (mapping : value.entries? = some entries) :
    areWritableEntries entries = true := by
  cases value with
  | mapping others =>
      obtain rfl := Option.some.inj mapping
      rwa [isWritable] at writable
  | cycle isMapping =>
      cases isMapping with
      | true =>
          obtain rfl := Option.some.inj mapping
          rfl
      | false => cases mapping
  | _ => cases mapping

theorem isWritable_of_mem_items?
    {value : Tree}
    (writable : value.isWritable = true)
    {items : List Tree}
    (listed : (if value.isEmpty then some [] else value.items?) = some items) :
    ∀ item ∈ items, item.isWritable = true := by
  by_cases empty : value.isEmpty = true
  · rw [if_pos empty] at listed
    obtain rfl := Option.some.inj listed
    exact List.forall_mem_nil _
  · rw [if_neg empty] at listed
    cases value with
    | sequence others =>
        obtain rfl := Option.some.inj listed
        rw [isWritable] at writable
        exact areWritable_iff.mp writable
    | cycle isMapping =>
        cases isMapping with
        | true => cases listed
        | false =>
            obtain rfl := Option.some.inj listed
            exact List.forall_mem_nil _
    | _ => cases listed

end PhoneAccounts.Tree

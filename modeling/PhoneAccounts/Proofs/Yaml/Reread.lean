import PhoneAccounts.Proofs.Yaml.Meaning

/-!
Contract: the documents that are read as they are written.

Only texts can change on the way, so a document stays as it is if and only if each of its texts
does.

Owns: `Outline.leaves`, the texts and the integers of a document, and how soundness and depth
follow from them.

Does not own: which texts stay as they are (see `PhoneAccounts.Proofs.Yaml.Layout.Scalar`).
-/

namespace PhoneAccounts.Yaml.Outline

open PhoneAccounts.Text

/-! ## Leaves -/

mutual

/-- What an outline holds that is no collection, in the order in which it is written. -/
def leaves : Outline → List Outline
  | .text value => [.text value]
  | .integer value => [.integer value]
  | .flag value => [.flag value]
  | .sequence items => itemsLeaves items
  | .mapping entries => entriesLeaves entries

def itemsLeaves : List Outline → List Outline
  | [] => []
  | item :: rest => item.leaves ++ itemsLeaves rest

def entriesLeaves : List (String × Outline) → List Outline
  | [] => []
  | (_, value) :: rest => value.leaves ++ entriesLeaves rest

end

/-- The texts of an outline; a key is none of them. -/
def texts (outline : Outline) : List String :=
  outline.leaves.filterMap fun
    | .text value => some value
    | _ => none

def integers (outline : Outline) : List Int :=
  outline.leaves.filterMap fun
    | .integer value => some value
    | _ => none

theorem mem_texts {outline : Outline} {value : String} :
    value ∈ outline.texts ↔ .text value ∈ outline.leaves := by
  rw [texts, List.mem_filterMap]
  constructor
  · rintro ⟨leaf, member, found⟩
    cases leaf <;> cases found
    exact member
  · exact fun member => ⟨.text value, member, rfl⟩

theorem mem_integers {outline : Outline} {value : Int} :
    value ∈ outline.integers ↔ .integer value ∈ outline.leaves := by
  rw [integers, List.mem_filterMap]
  constructor
  · rintro ⟨leaf, member, found⟩
    cases leaf <;> cases found
    exact member
  · exact fun member => ⟨.integer value, member, rfl⟩

theorem mem_itemsLeaves
    {items : List Outline}
    {leaf : Outline} :
    leaf ∈ itemsLeaves items ↔ ∃ item ∈ items, leaf ∈ item.leaves := by
  induction items with
  | nil => simp [itemsLeaves]
  | cons item rest inductionHypothesis => simp [itemsLeaves, inductionHypothesis]

theorem mem_entriesLeaves
    {entries : List (String × Outline)}
    {leaf : Outline} :
    leaf ∈ entriesLeaves entries ↔ ∃ entry ∈ entries, leaf ∈ entry.2.leaves := by
  induction entries with
  | nil => simp [entriesLeaves]
  | cons entry rest inductionHypothesis =>
      obtain ⟨key, value⟩ := entry
      simp [entriesLeaves, inductionHypothesis]

/-! ## What stays as it is -/

mutual

/-- A tree is read as it was written if and only if its texts are. -/
theorem tree_reread_eq_iff (outline : Outline) :
    outline.reread.tree = outline.tree ↔
      ∀ value, .text value ∈ outline.leaves → rereadText value.toList = value.toList := by
  cases outline with
  | text value =>
      rw [reread, tree, tree, Tree.text.injEq, leaves]
      simp only [List.mem_singleton, text.injEq, forall_eq]
      rw [← String.toList_inj, String.toList_ofList]
  | integer value => simp [reread, leaves]
  | flag value => simp [reread, leaves]
  | sequence items =>
      rw [reread, tree, tree, Tree.sequence.injEq, leaves]
      exact itemTrees_rereadItems_eq_iff items
  | mapping entries =>
      rw [reread, tree, tree, Tree.mapping.injEq, leaves]
      exact entryTrees_rereadEntries_eq_iff entries

theorem itemTrees_rereadItems_eq_iff (items : List Outline) :
    itemTrees (rereadItems items) = itemTrees items ↔
      ∀ value, .text value ∈ itemsLeaves items → rereadText value.toList = value.toList := by
  cases items with
  | nil => simp [rereadItems, itemsLeaves]
  | cons item items =>
      rw [rereadItems, itemTrees, itemTrees, List.cons.injEq, tree_reread_eq_iff item,
        itemTrees_rereadItems_eq_iff items, itemsLeaves]
      simp only [List.mem_append, or_imp, forall_and]

theorem entryTrees_rereadEntries_eq_iff (entries : List (String × Outline)) :
    entryTrees (rereadEntries entries) = entryTrees entries ↔
      ∀ value, .text value ∈ entriesLeaves entries → rereadText value.toList = value.toList := by
  cases entries with
  | nil => simp [rereadEntries, entriesLeaves]
  | cons entry entries =>
      obtain ⟨key, value⟩ := entry
      rw [rereadEntries, entryTrees, entryTrees, List.cons.injEq, Prod.mk.injEq,
        eq_self_iff_true, true_and, tree_reread_eq_iff value,
        entryTrees_rereadEntries_eq_iff entries, entriesLeaves]
      simp only [List.mem_append, or_imp, forall_and]

end

/-- A text that is written between apostrophes loses its next-line characters; nothing else is
ever lost. -/
theorem tree_reread_eq_iff_texts (outline : Outline) :
    outline.reread.tree = outline.tree ↔
      ∀ value ∈ outline.texts,
        TextStyle.of value.toList = .singleQuoted → '\x85' ∉ value.toList := by
  rw [tree_reread_eq_iff]
  simp only [mem_texts, rereadText_eq_iff]

/-! ## Soundness and depth -/

/-- The outline is no collection. -/
def isLeaf : Outline → Bool
  | .sequence _ => false
  | .mapping _ => false
  | _ => true

/-- The integers are short. -/
def HasShortIntegers (outline : Outline) : Prop :=
  ∀ value ∈ outline.integers, IsShort value

instance (outline : Outline) : Decidable outline.HasShortIntegers :=
  inferInstanceAs (Decidable (∀ value ∈ outline.integers, IsShort value))

mutual

theorem isWritable_iff_leaves (outline : Outline) :
    outline.isWritable = true ↔ ∀ value, .integer value ∈ outline.leaves → IsShort value := by
  cases outline with
  | text value => simp [isWritable, leaves]
  | integer value => simp [isWritable, leaves, Text.isWritable, IsShort]
  | flag value => simp [isWritable, leaves]
  | sequence items => exact areWritable_iff_leaves items
  | mapping entries => exact areWritableEntries_iff_leaves entries

theorem areWritable_iff_leaves (items : List Outline) :
    areWritable items = true ↔ ∀ value, .integer value ∈ itemsLeaves items → IsShort value := by
  cases items with
  | nil => simp [areWritable, itemsLeaves]
  | cons item items =>
      rw [areWritable, Bool.and_eq_true, isWritable_iff_leaves item,
        areWritable_iff_leaves items, itemsLeaves]
      simp only [List.mem_append, or_imp, forall_and]

theorem areWritableEntries_iff_leaves (entries : List (String × Outline)) :
    areWritableEntries entries = true ↔
      ∀ value, .integer value ∈ entriesLeaves entries → IsShort value := by
  cases entries with
  | nil => simp [areWritableEntries, entriesLeaves]
  | cons entry entries =>
      obtain ⟨key, value⟩ := entry
      rw [areWritableEntries, Bool.and_eq_true, isWritable_iff_leaves value,
        areWritableEntries_iff_leaves entries, entriesLeaves]
      simp only [List.mem_append, or_imp, forall_and]

end

/-- A document can be written if and only if its integers are short. -/
theorem isWritable_iff (outline : Outline) :
    outline.isWritable = true ↔ outline.HasShortIntegers := by
  rw [isWritable_iff_leaves]
  exact forall_congr' fun value => by rw [mem_integers]

theorem HasShortIntegers.item
    {items : List Outline}
    (short : (sequence items).HasShortIntegers)
    {item : Outline}
    (member : item ∈ items) :
    item.HasShortIntegers := by
  intro value isInteger
  rw [mem_integers] at isInteger
  exact short value (mem_integers.mpr (mem_itemsLeaves.mpr ⟨item, member, isInteger⟩))

theorem HasShortIntegers.entry
    {entries : List (String × Outline)}
    (short : (mapping entries).HasShortIntegers)
    {entry : String × Outline}
    (member : entry ∈ entries) :
    entry.2.HasShortIntegers := by
  intro value isInteger
  rw [mem_integers] at isInteger
  exact short value (mem_integers.mpr (mem_entriesLeaves.mpr ⟨entry, member, isInteger⟩))

theorem isSound_of_isLeaf
    {outline : Outline}
    (leaf : outline.isLeaf = true)
    (short : outline.HasShortIntegers) :
    outline.IsSound := by
  cases outline with
  | text value => trivial
  | integer value => exact short value (List.mem_singleton.mpr rfl)
  | flag value => trivial
  | sequence items => exact absurd leaf Bool.false_ne_true
  | mapping entries => exact absurd leaf Bool.false_ne_true

theorem depth_of_isLeaf
    {outline : Outline}
    (leaf : outline.isLeaf = true) :
    outline.depth = 0 := by
  cases outline with
  | text value => rfl
  | integer value => rfl
  | flag value => rfl
  | sequence items => exact absurd leaf Bool.false_ne_true
  | mapping entries => exact absurd leaf Bool.false_ne_true

theorem isSound_sequence
    {items : List Outline}
    (sound : ∀ item ∈ items, item.IsSound) :
    (sequence items).IsSound := by
  show AreSound items
  induction items with
  | nil => trivial
  | cons item rest inductionHypothesis =>
      exact ⟨sound item List.mem_cons_self,
        inductionHypothesis fun other member => sound other (List.mem_cons_of_mem item member)⟩

/-- A mapping whose keys are taken from a list of different words, in their order, is sound if
its values are. -/
theorem isSound_mapping
    {entries : List (String × Outline)}
    {keys : List String}
    (listed : (entries.map Prod.fst).Sublist keys)
    (distinct : keys.Nodup)
    (areKeys : ∀ key ∈ keys, IsKey key)
    (sound : ∀ entry ∈ entries, entry.2.IsSound) :
    (mapping entries).IsSound := by
  have own : ∀ key ∈ entries.map Prod.fst, IsKey key :=
    fun key member => areKeys key (listed.subset member)
  refine ⟨distinct.sublist listed, ?_⟩
  clear listed
  induction entries with
  | nil => trivial
  | cons entry rest inductionHypothesis =>
      rw [List.map_cons] at own
      exact ⟨own entry.1 List.mem_cons_self, sound entry List.mem_cons_self,
        inductionHypothesis (fun other member => sound other (List.mem_cons_of_mem entry member))
          fun key member => own key (List.mem_cons_of_mem entry.1 member)⟩

theorem itemsDepth_le
    {items : List Outline}
    {bound : Nat}
    (depths : ∀ item ∈ items, item.depth ≤ bound) :
    itemsDepth items ≤ bound := by
  induction items with
  | nil => exact Nat.zero_le bound
  | cons item rest inductionHypothesis =>
      exact Nat.max_le.mpr ⟨depths item List.mem_cons_self,
        inductionHypothesis fun other member => depths other (List.mem_cons_of_mem item member)⟩

theorem entriesDepth_le
    {entries : List (String × Outline)}
    {bound : Nat}
    (depths : ∀ entry ∈ entries, entry.2.depth ≤ bound) :
    entriesDepth entries ≤ bound := by
  induction entries with
  | nil => exact Nat.zero_le bound
  | cons entry rest inductionHypothesis =>
      exact Nat.max_le.mpr ⟨depths entry List.mem_cons_self,
        inductionHypothesis fun other member => depths other (List.mem_cons_of_mem entry member)⟩

end PhoneAccounts.Yaml.Outline

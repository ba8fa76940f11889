import PhoneAccounts.Yaml.Layout.Outline

/-!
Contract: deciding whether a tree is the one that a document writes.

Trees can hold numbers whose equality is not decidable.  What a document writes holds none of
them, so a tree can be compared with it.

Owns: `Outline.writes` and that it decides.

Does not own: reading the text of the document.
-/

namespace PhoneAccounts.Yaml.Outline

mutual

/-- The tree is the one that the document writes. -/
def writes : Outline → Tree → Bool
  | .text value, .text other => value = other
  | .integer value, .integer other => value = other
  | .flag value, .boolean other => value = other
  | .sequence items, .sequence trees => writesItems items trees
  | .mapping entries, .mapping trees => writesEntries entries trees
  | _, _ => false

/-- The trees are those of the items. -/
def writesItems : List Outline → List Tree → Bool
  | [], [] => true
  | item :: rest, tree :: trees => item.writes tree && writesItems rest trees
  | _, _ => false

/-- The trees are those of the entries. -/
def writesEntries : List (String × Outline) → List (Tree × Tree) → Bool
  | [], [] => true
  | (key, value) :: rest, (.text name, tree) :: trees =>
      key = name && value.writes tree && writesEntries rest trees
  | _, _ => false

end

mutual

theorem writes_tree (outline : Outline) : outline.writes outline.tree = true := by
  cases outline with
  | text value => simp [tree, writes]
  | integer value => simp [tree, writes]
  | flag value => simp [tree, writes]
  | sequence items =>
      rw [tree, writes]
      exact writesItems_itemTrees items
  | mapping entries =>
      rw [tree, writes]
      exact writesEntries_entryTrees entries

theorem writesItems_itemTrees (items : List Outline) :
    writesItems items (itemTrees items) = true := by
  cases items with
  | nil => rfl
  | cons item rest =>
      rw [itemTrees, writesItems, writes_tree item, writesItems_itemTrees rest]
      rfl

theorem writesEntries_entryTrees (entries : List (String × Outline)) :
    writesEntries entries (entryTrees entries) = true := by
  cases entries with
  | nil => rfl
  | cons entry rest =>
      obtain ⟨key, value⟩ := entry
      rw [entryTrees, writesEntries, writes_tree value, writesEntries_entryTrees rest]
      simp

end

mutual

theorem tree_eq_of_writes
    {outline : Outline}
    {other : Tree}
    (written : outline.writes other = true) :
    outline.tree = other := by
  unfold writes at written
  split at written
  · rw [tree, of_decide_eq_true written]
  · rw [tree, of_decide_eq_true written]
  · rw [tree, of_decide_eq_true written]
  · rw [tree, itemTrees_eq_of_writes written]
  · rw [tree, entryTrees_eq_of_writes written]
  · exact absurd written Bool.false_ne_true

theorem itemTrees_eq_of_writes
    {items : List Outline}
    {trees : List Tree}
    (written : writesItems items trees = true) :
    itemTrees items = trees := by
  unfold writesItems at written
  split at written
  · rfl
  · rw [Bool.and_eq_true] at written
    rw [itemTrees, tree_eq_of_writes written.1, itemTrees_eq_of_writes written.2]
  · exact absurd written Bool.false_ne_true

theorem entryTrees_eq_of_writes
    {entries : List (String × Outline)}
    {trees : List (Tree × Tree)}
    (written : writesEntries entries trees = true) :
    entryTrees entries = trees := by
  unfold writesEntries at written
  split at written
  · rfl
  · rw [Bool.and_eq_true, Bool.and_eq_true, decide_eq_true_eq] at written
    rw [entryTrees, written.1.1, tree_eq_of_writes written.1.2,
      entryTrees_eq_of_writes written.2]
  · exact absurd written Bool.false_ne_true

end

theorem writes_iff (outline : Outline) (other : Tree) :
    outline.writes other = true ↔ outline.tree = other :=
  ⟨tree_eq_of_writes, fun same => same ▸ writes_tree outline⟩

end PhoneAccounts.Yaml.Outline

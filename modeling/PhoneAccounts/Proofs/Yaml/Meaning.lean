import PhoneAccounts.Proofs.Yaml.Charset
import PhoneAccounts.Proofs.Yaml.Node
import PhoneAccounts.Yaml.Meaning

/-!
Contract: the tree that a written document is read as.

Owns: `Outline.reread`, what a document becomes when it is written and read, and reading its
bytes.

Does not own: which documents stay as they are (see `PhoneAccounts.Proofs.Yaml.Reread`).
-/

namespace PhoneAccounts

/-! ## Entries with different keys -/

namespace Tree

theorem insertEntry_of_fresh
    {key value : Tree}
    {entries : List (Tree × Tree)}
    (fresh : ∀ entry ∈ entries, entry.1.isSameKey key = false) :
    insertEntry key value entries = entries ++ [(key, value)] := by
  induction entries with
  | nil => rfl
  | cons first others inductionHypothesis =>
      rw [insertEntry, fresh first List.mem_cons_self, if_neg Bool.false_ne_true,
        inductionHypothesis fun entry member => fresh entry (List.mem_cons_of_mem first member)]
      rfl

end Tree

namespace Yaml

open PhoneAccounts.Text

namespace Outline

/-- Entries with different keys are all kept. -/
theorem ofEntries_entryTrees
    {entries : List (String × Outline)}
    (distinct : (entries.map Prod.fst).Nodup) :
    Tree.ofEntries (entryTrees entries) = entryTrees entries := by
  have general : ∀ (entries : List (String × Outline)) (before : List (Tree × Tree)),
      (entries.map Prod.fst).Nodup →
        (∀ entry ∈ before, ∀ key ∈ entries.map Prod.fst,
          entry.1.isSameKey (.text key) = false) →
          (entryTrees entries).foldl
              (fun result entry => Tree.insertEntry entry.1 entry.2 result) before =
            before ++ entryTrees entries := by
    intro entries
    induction entries with
    | nil => exact fun before _ _ => (List.append_nil before).symm
    | cons first others inductionHypothesis =>
        intro before distinct fresh
        obtain ⟨key, value⟩ := first
        rw [List.map_cons, List.nodup_cons] at distinct
        have inserted : Tree.insertEntry (.text key) value.tree before =
            before ++ [(.text key, value.tree)] :=
          Tree.insertEntry_of_fresh fun entry member => fresh entry member key (by simp)
        rw [entryTrees, List.foldl_cons, inserted, inductionHypothesis _ distinct.2]
        · simp
        · intro entry member other isOther
          rcases List.mem_append.mp member with member | member
          · exact fresh entry member other (by simp [isOther])
          · rw [List.mem_singleton] at member
            subst member
            have different : key ≠ other := by
              rintro rfl
              exact distinct.1 isOther
            simpa [Tree.isSameKey] using different
  exact general entries [] distinct (fun entry member => absurd member List.not_mem_nil)

/-! ## Rereading -/

mutual

/-- What an outline becomes when it is written and read. -/
def reread : Outline → Outline
  | .text value => .text (String.ofList (rereadText value.toList))
  | .integer value => .integer value
  | .flag value => .flag value
  | .sequence items => .sequence (rereadItems items)
  | .mapping entries => .mapping (rereadEntries entries)

def rereadItems : List Outline → List Outline
  | [] => []
  | item :: rest => item.reread :: rereadItems rest

def rereadEntries : List (String × Outline) → List (String × Outline)
  | [] => []
  | (key, value) :: rest => (key, value.reread) :: rereadEntries rest

end

theorem keys_rereadEntries (entries : List (String × Outline)) :
    (rereadEntries entries).map Prod.fst = entries.map Prod.fst := by
  induction entries with
  | nil => rfl
  | cons first others inductionHypothesis =>
      rw [rereadEntries, List.map_cons, List.map_cons, inductionHypothesis]

/-! ## Meaning -/

theorem hasBadMerge_entryNodes (entries : List (String × Outline)) :
    Node.hasBadMerge (entryNodes entries) = false := by
  induction entries with
  | nil => rfl
  | cons first others inductionHypothesis =>
      rw [entryNodes, Node.hasBadMerge, inductionHypothesis]
      rfl

theorem mergedTrees_entryNodes (depth : Nat) (entries : List (String × Outline)) :
    Node.mergedTrees depth (entryNodes entries) = .ok [] := by
  induction entries with
  | nil => rfl
  | cons first others inductionHypothesis =>
      rw [entryNodes, Node.mergedTrees, inductionHypothesis]
      rfl

theorem tree_sequence (level : Nat) (items : List Node) :
    Node.tree level (.sequence .sequence items) =
      Node.itemTrees (level + 1) items >>= fun items => .ok (.sequence items) := by
  rw [Node.tree]
  rfl

theorem tree_mapping
    {level : Nat}
    {entries : List (Node × Node)}
    {own : List (Tree × Tree)}
    (noBadMerge : Node.hasBadMerge entries = false)
    (noMerge : Node.mergedTrees (level + 1) entries = .ok [])
    (read : Node.entryTrees (level + 1) entries = .ok own) :
    Node.tree level (.mapping .mapping entries) = .ok (.mapping (Tree.ofEntries own)) := by
  rw [Node.tree]
  have noScalar : Node.mappedScalarTree .mapping (Node.scalarTextIn entries) = none := rfl
  simp only [noScalar, noBadMerge, noMerge, read]
  rfl

theorem entryTrees_cons
    {level : Nat}
    {value : Node}
    {tree : Tree}
    {rest : List (Node × Node)}
    {others : List (Tree × Tree)}
    (valueRead : value.tree level = .ok tree)
    (restRead : Node.entryTrees level rest = .ok others)
    (key : String) :
    Node.entryTrees level ((.scalar .text key.toList, value) :: rest) =
      .ok ((.text key, tree) :: others) := by
  have keyRead : Node.tree level (.scalar .text key.toList) = .ok (.text key) := by
    rw [Node.tree]
    show Except.ok (Tree.text (String.ofList key.toList)) = _
    rw [String.ofList_toList]
  rw [Node.entryTrees]
  · simp only [keyRead, valueRead, restRead]
    rfl
  · simp

mutual

/-- The node of an outline means the tree of what it is read as. -/
theorem tree_node
    (outline : Outline)
    (sound : outline.IsSound)
    (level : Nat) :
    outline.node.tree level = .ok outline.reread.tree := by
  cases outline with
  | text value =>
      rw [node, Node.tree, reread, Outline.tree]
      rfl
  | integer value =>
      have read : integerOf (integerText value) = .ok value := integerOf_integerText sound
      rw [node, Node.tree, reread, Outline.tree]
      show atDepth level (integerOf (integerText value) >>= _) = _
      rw [read]
      rfl
  | flag value =>
      rw [node, Node.tree, reread, Outline.tree]
      cases value <;> rfl
  | sequence items =>
      rw [node, tree_sequence, itemTrees_itemNodes items sound, reread, Outline.tree]
      rfl
  | mapping entries =>
      have distinct : ((rereadEntries entries).map Prod.fst).Nodup := by
        rw [keys_rereadEntries]
        exact sound.1
      rw [node, tree_mapping (hasBadMerge_entryNodes entries) (mergedTrees_entryNodes _ entries)
        (entryTrees_entryNodes entries sound.2 (level + 1)), ofEntries_entryTrees distinct, reread,
        Outline.tree]

theorem itemTrees_itemNodes
    (items : List Outline)
    (sound : AreSound items)
    (level : Nat) :
    Node.itemTrees level (itemNodes items) = .ok (itemTrees (rereadItems items)) := by
  cases items with
  | nil => rfl
  | cons item items =>
      rw [itemNodes, Node.itemTrees, tree_node item sound.1, itemTrees_itemNodes items sound.2]
      rfl

theorem entryTrees_entryNodes
    (entries : List (String × Outline))
    (sound : AreSoundEntries entries)
    (level : Nat) :
    Node.entryTrees level (entryNodes entries) = .ok (entryTrees (rereadEntries entries)) := by
  cases entries with
  | nil => rfl
  | cons entry entries =>
      obtain ⟨key, value⟩ := entry
      rw [entryNodes, entryTrees_cons (tree_node value sound.2.1 level)
        (entryTrees_entryNodes entries sound.2.2 level) key]
      rfl

end

/-- The text of a document is read as the tree of what the document becomes. -/
theorem treeOfChars?_documentText
    {entries : List (String × Outline)}
    (nonempty : entries ≠ [])
    (sound : (Outline.mapping entries).IsSound)
    (narrow : step * (entriesDepth entries + 1) < bestWidth) :
    treeOfChars? (documentText entries) = .ok (Outline.mapping entries).reread.tree := by
  have scanned := scan?_documentText nonempty sound.2 narrow
  have composed := ofTokens?_document sound.2
  have meant := tree_node (.mapping entries) sound 0
  rw [node] at meant
  unfold treeOfChars?
  simp only [scanned, composed, bind, Except.bind, Node.tree?, meant]

/-- The bytes of a document are read as the tree of what the document becomes. -/
theorem treeOfBytes?_documentText
    {entries : List (String × Outline)}
    (nonempty : entries ≠ [])
    (sound : (Outline.mapping entries).IsSound)
    (narrow : step * (entriesDepth entries + 1) < bestWidth) :
    treeOfBytes? (Utf8.encode (documentText entries)) =
      .ok (Outline.mapping entries).reread.tree := by
  have stored := documentChars?_documentText nonempty sound.2
  have read := treeOfChars?_documentText nonempty sound narrow
  unfold treeOfBytes?
  simp only [stored, bind, Except.bind, read]

end Outline

end Yaml

end PhoneAccounts

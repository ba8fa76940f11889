import PhoneAccounts.Yaml.Node
import PhoneAccounts.Yaml.Scalar

/-!
Contract: the tree that a node means.

The scalars of a collection get their values before the collections in it are filled, so
of several faults the one nearest to the root is reported, and of those the first.

Owns: `Node.tree?`, with merging and the tags of collections, and `treeOfBytes?`, which is one
`Parser`.

Does not own: the values of single scalars (see `PhoneAccounts.Yaml.Scalar`).
-/

namespace PhoneAccounts.Yaml

/-- A fault, and how many collections have to be filled before it shows. -/
structure Flaw where
  depth : Nat
  fault : Fault
deriving DecidableEq, Repr

/-- Two results; of two flaws the one that shows first. -/
def bothOf {First Second : Type} :
    Except Flaw First → Except Flaw Second → Except Flaw (First × Second)
  | .ok first, .ok second => .ok (first, second)
  | .error flaw, .ok _ => .error flaw
  | .ok _, .error flaw => .error flaw
  | .error flaw, .error other => .error (if other.depth < flaw.depth then other else flaw)

def atDepth {Value : Type} (depth : Nat) : Except Fault Value → Except Flaw Value
  | .ok value => .ok value
  | .error fault => .error ⟨depth, fault⟩

namespace Node

def tag? : Node → Option Tag
  | .scalar tag _ => some tag
  | .sequence tag _ => some tag
  | .mapping tag _ => some tag
  | .cycle _ => none

def isMerge (key : Node) : Bool := key.tag? = some .merge

mutual

/-- Something that cannot be merged is asked to be. -/
def hasBadMerge : List (Node × Node) → Bool
  | [] => false
  | (key, value) :: rest =>
      (key.isMerge && isBadMerge value) || hasBadMerge rest

/-- The node is neither a mapping that can be merged nor a sequence of such. -/
def isBadMerge : Node → Bool
  | .scalar _ _ => true
  | .mapping _ entries => hasBadMerge entries
  | .sequence _ items => isAnyBadMerge items
  | .cycle _ => false

/-- One of the nodes is no mapping that can be merged. -/
def isAnyBadMerge : List Node → Bool
  | [] => false
  | .mapping _ entries :: rest => hasBadMerge entries || isAnyBadMerge rest
  | .cycle true :: rest => isAnyBadMerge rest
  | _ :: _ => true

end

mutual

/-- The text of a scalar.  A mapping stands for the text under its value key. -/
def scalarText : Node → Except Fault (List Char)
  | .scalar _ text => .ok text
  | .mapping _ entries => scalarTextIn entries
  | .sequence _ _ => .error .unparseable
  | .cycle _ => .error .unparseable

/-- The text under the first value key. -/
def scalarTextIn : List (Node × Node) → Except Fault (List Char)
  | [] => .error .unparseable
  | (key, value) :: rest =>
      if key.tag? = some .value then scalarText value else scalarTextIn rest

end

/-- What a tag makes of the text of a scalar; nothing if the tag is one of collections. -/
def scalarTree (tag : Tag) (text : Except Fault (List Char)) : Option (Except Fault Tree) :=
  match tag with
  | .null => some (text.map fun _ => .null)
  | .boolean => some do return .boolean (← flagOf (← text))
  | .integer => some do return .integer (← integerOf (← text))
  | .real => some do return .real (← realOf (← text))
  | .binary => some do return .bytes (← binaryOf (← text))
  | .timestamp => some do timestampOf (← text)
  | .text => some do return .text (String.ofList (← text))
  | .merge | .value | .unknown => some (.error .unparseable)
  | .sequence | .mapping | .set | .orderedMap | .pairs => none

def mappedScalarTree (tag : Tag) (text : Except Fault (List Char)) :
    Option (Except Fault Tree) :=
  if tag = .timestamp then
    some do
      let _ ← text
      .error .scatteredTimestamp
  else scalarTree tag text

def checkKey (depth : Nat) (key : Except Flaw Tree) : Except Flaw Tree :=
  match key with
  | .ok tree => if tree.canBeKey then .ok tree else .error ⟨depth, .unparseable⟩
  | .error flaw => if flaw.depth ≤ depth then .error flaw else .error ⟨depth, .unparseable⟩

mutual

def tree (depth : Nat) : Node → Except Flaw Tree
  | .cycle isMapping => .ok (.cycle isMapping)
  | .scalar tag text =>
      match scalarTree tag (.ok text) with
      | some value => atDepth depth value
      | none => .error ⟨depth + 1, .unparseable⟩
  | .sequence tag items =>
      match scalarTree tag (.error .unparseable) with
      | some value => atDepth depth value
      | none =>
          match tag with
          | .sequence => do
              let items ← itemTrees (depth + 1) items
              .ok (.sequence items)
          | .orderedMap | .pairs => do
              let items ← pairTrees (depth + 1) items
              .ok (.sequence items)
          | _ => .error ⟨depth + 1, .unparseable⟩
  | .mapping tag entries =>
      match mappedScalarTree tag (scalarTextIn entries) with
      | some value => atDepth depth value
      | none =>
          if tag = .mapping ∨ tag = .set then
            if hasBadMerge entries then .error ⟨depth + 1, .unparseable⟩
            else do
              let (merged, own) ←
                bothOf (mergedTrees (depth + 1) entries) (entryTrees (depth + 1) entries)
              let entries := Tree.ofEntries (merged ++ own)
              .ok (if tag = .set then .members (entries.map Prod.fst) else .mapping entries)
          else .error ⟨depth + 1, .unparseable⟩

def itemTrees (depth : Nat) : List Node → Except Flaw (List Tree)
  | [] => .ok []
  | item :: rest => do
      let (first, others) ← bothOf (tree depth item) (itemTrees depth rest)
      .ok (first :: others)

/-- The pairs of a sequence whose items are mappings of one entry. -/
def pairTrees (depth : Nat) : List Node → Except Flaw (List Tree)
  | [] => .ok []
  | .mapping _ [(key, value)] :: rest => do
      let ((first, second), others) ←
        bothOf (bothOf (tree depth key) (tree depth value)) (pairTrees depth rest)
      .ok (.pair first second :: others)
  | _ :: _ => .error ⟨depth, .unparseable⟩

/-- The entries of a mapping that are its own.  A value key is an ordinary text here. -/
def entryTrees (depth : Nat) : List (Node × Node) → Except Flaw (List (Tree × Tree))
  | [] => .ok []
  | (key, value) :: rest =>
      if key.isMerge then entryTrees depth rest
      else
        let keyTree : Except Flaw Tree := match key with
          | .scalar .value text => .ok (.text (String.ofList text))
          | key => tree depth key
        do
          let (entry, others) ←
            bothOf (bothOf (checkKey depth keyTree) (tree depth value)) (entryTrees depth rest)
          .ok (entry :: others)

/-- The entries that a mapping merges, in the order in which they give way to later ones. -/
def mergedTrees (depth : Nat) : List (Node × Node) → Except Flaw (List (Tree × Tree))
  | [] => .ok []
  | (key, value) :: rest =>
      if key.isMerge then do
        let (first, others) ← bothOf (mergeTrees depth value) (mergedTrees depth rest)
        .ok (first ++ others)
      else mergedTrees depth rest

/-- The entries of what is merged: a mapping, or mappings of which the first wins. -/
def mergeTrees (depth : Nat) : Node → Except Flaw (List (Tree × Tree))
  | .mapping _ entries => do
      let (merged, own) ← bothOf (mergedTrees depth entries) (entryTrees depth entries)
      .ok (merged ++ own)
  | .sequence _ items => mergeItems depth items
  | .scalar _ _ => .ok []
  | .cycle _ => .ok []

/-- The entries of several mappings, the last one first. -/
def mergeItems (depth : Nat) : List Node → Except Flaw (List (Tree × Tree))
  | [] => .ok []
  | item :: rest => do
      let (others, first) ← bothOf (mergeItems depth rest) (mergeTrees depth item)
      .ok (others ++ first)

end

def tree? (node : Node) : Except Fault Tree :=
  match node.tree 0 with
  | .ok tree => .ok tree
  | .error flaw => .error flaw.fault

end Node

/-! ## Documents -/

/-- The tree of a text; null if it holds no document. -/
def treeOfChars? (chars : List Char) : Except Fault Tree := do
  let tokens ← Token.scan? chars
  match ← Node.ofTokens? tokens with
  | none => .ok .null
  | some node => node.tree?

/-- What makes a tree of the bytes of a file, or says why they hold none. -/
abbrev Parser := List UInt8 → Except Fault Tree

def treeOfBytes? (bytes : List UInt8) : Except Fault Tree := do
  let chars ← documentChars? bytes
  treeOfChars? chars

end PhoneAccounts.Yaml

import PhoneAccounts.Proofs.Steps
import PhoneAccounts.Proofs.Yaml.Grammar
import PhoneAccounts.Proofs.Yaml.Token.Stopping
import PhoneAccounts.Yaml.Meaning

/-!
Contract: which documents name no value although the grammar allows them.

A scalar may be marked, by its look or by a tag, as one kind of value and name none of that
kind.  A mapping may stand for a scalar, which is then the text under its value key.  And an
escape may ask for a character that does not exist, or the version have too many digits.

Owns: `Node.IsWithin`, `Node.NamesNoValue` and `HasImpossiblePart`, and that everything else
that stops the reading of a document is forbidden by the grammar.

Does not own: what a file with such a document means.
-/

namespace PhoneAccounts.Yaml

namespace Node

/-- The first node is the second, or is an item, a key or a value within it. -/
inductive IsWithin : Node → Node → Prop
  | here (node : Node) : IsWithin node node
  | item {part item : Node} {tag : Tag} {items : List Node}
      (member : item ∈ items) (within : IsWithin part item) :
      IsWithin part (.sequence tag items)
  | key {part key value : Node} {tag : Tag} {entries : List (Node × Node)}
      (member : (key, value) ∈ entries) (within : IsWithin part key) :
      IsWithin part (.mapping tag entries)
  | value {part key value : Node} {tag : Tag} {entries : List (Node × Node)}
      (member : (key, value) ∈ entries) (within : IsWithin part value) :
      IsWithin part (.mapping tag entries)

theorem IsWithin.entry
    {part : Node}
    {tag : Tag}
    {entries : List (Node × Node)}
    {entry : Node × Node}
    (member : entry ∈ entries)
    (within : part.IsWithin entry.1 ∨ part.IsWithin entry.2) :
    part.IsWithin (.mapping tag entries) :=
  within.elim (.key member) (.value member)

/-- The node is marked as one kind of value, and its text names none of that kind. -/
inductive NamesNoValue (fault : Fault) : Node → Prop
  | scalar {tag : Tag} {text : List Char}
      (noValue : scalarTree tag (.ok text) = some (.error fault)) :
      NamesNoValue fault (.scalar tag text)
  | mapping {tag : Tag} {entries : List (Node × Node)} {text : List Char}
      (standsFor : scalarTextIn entries = .ok text)
      (noValue : mappedScalarTree tag (.ok text) = some (.error fault)) :
      NamesNoValue fault (.mapping tag entries)

/-- The kinds of values that a text can fail to name. -/
def namingTags : List Tag := [.boolean, .integer, .real, .timestamp]

/-! ## Texts -/

mutual

theorem fault_of_scalarText : ∀ {node : Node} {fault : Fault},
    node.scalarText = .error fault → fault = .unparseable
  | .scalar _ _, _, stops => nomatch stops
  | .mapping _ _, _, stops => fault_of_scalarTextIn stops
  | .sequence _ _, _, stops => (Except.error.inj stops).symm
  | .cycle _, _, stops => (Except.error.inj stops).symm

theorem fault_of_scalarTextIn : ∀ {entries : List (Node × Node)} {fault : Fault},
    scalarTextIn entries = .error fault → fault = .unparseable
  | [], _, stops => (Except.error.inj stops).symm
  | (key, value) :: rest, _, stops => by
      rw [scalarTextIn] at stops
      split at stops
      · exact fault_of_scalarText stops
      · exact fault_of_scalarTextIn stops

end

/-- Without a text there is only the fault that there is none. -/
theorem scalarTree_unparseable
    {tag : Tag}
    {value : Except Fault Tree}
    (isScalar : scalarTree tag (.error .unparseable) = some value) :
    value = .error .unparseable := by
  cases tag <;> first
    | exact (Option.some.inj isScalar).symm
    | exact absurd isScalar (by simp [scalarTree])

theorem mappedScalarTree_unparseable
    {tag : Tag}
    {value : Except Fault Tree}
    (isScalar : mappedScalarTree tag (.error .unparseable) = some value) :
    value = .error .unparseable := by
  unfold mappedScalarTree at isScalar
  split at isScalar
  · exact (Option.some.inj isScalar).symm
  · exact scalarTree_unparseable isScalar

theorem fault_of_binaryOf {text : List Char} {fault : Fault} (stops : binaryOf text = .error fault) :
    fault = .unparseable := by
  unfold binaryOf at stops
  split at stops
  · split at stops
    · exact absurd stops (by simp)
    · exact (Except.error.inj stops).symm
  · exact (Except.error.inj stops).symm

/-- Only flags, numbers and timestamps can be missed by a text. -/
theorem tag_of_scalarTree
    {tag : Tag}
    {text : List Char}
    {fault : Fault}
    (noValue : scalarTree tag (.ok text) = some (.error fault))
    (allowed : fault ≠ .unparseable) :
    tag ∈ namingTags := by
  cases tag with
  | boolean => decide
  | integer => decide
  | real => decide
  | timestamp => decide
  | null => exact absurd (Option.some.inj noValue) (by simp [Except.map])
  | text =>
      exact absurd (Option.some.inj noValue) (by simp [bind, Except.bind, pure, Except.pure])
  | binary =>
      rcases bind_eq_error (Option.some.inj noValue) with stops | ⟨read, -, stops⟩
      · exact nomatch stops
      · rcases bind_eq_error stops with stops | ⟨bytes, -, stops⟩
        · exact absurd (fault_of_binaryOf stops) allowed
        · exact nomatch stops
  | merge => exact absurd (Except.error.inj (Option.some.inj noValue)).symm allowed
  | value => exact absurd (Except.error.inj (Option.some.inj noValue)).symm allowed
  | unknown => exact absurd (Except.error.inj (Option.some.inj noValue)).symm allowed
  | sequence => exact absurd noValue (by simp [scalarTree])
  | mapping => exact absurd noValue (by simp [scalarTree])
  | set => exact absurd noValue (by simp [scalarTree])
  | orderedMap => exact absurd noValue (by simp [scalarTree])
  | pairs => exact absurd noValue (by simp [scalarTree])

theorem NamesNoValue.tag
    {node : Node}
    {fault : Fault}
    (names : node.NamesNoValue fault)
    (allowed : fault ≠ .unparseable) :
    ∃ tag ∈ namingTags, node.tag? = some tag := by
  cases names with
  | scalar noValue => exact ⟨_, tag_of_scalarTree noValue allowed, rfl⟩
  | mapping standsFor noValue =>
      unfold mappedScalarTree at noValue
      split at noValue
      · next isTimestamp => exact ⟨.timestamp, by decide, congrArg some isTimestamp⟩
      · exact ⟨_, tag_of_scalarTree noValue allowed, rfl⟩

/-! ## Flaws -/

/-- A computation ends with a value, or with a flaw of the grammar, or because one of some
nodes names no value. -/
inductive Explains (parts : Node → Prop) {Value : Type} : Except Flaw Value → Prop
  | ok (value : Value) : Explains parts (.ok value)
  | unparseable (depth : Nat) : Explains parts (.error ⟨depth, .unparseable⟩)
  | noValue {part : Node} {fault : Fault} (isPart : parts part) (names : part.NamesNoValue fault)
      (depth : Nat) : Explains parts (.error ⟨depth, fault⟩)

namespace Explains

variable {parts : Node → Prop} {First Second : Type}

theorem bind
    {result : Except Flaw First}
    {next : First → Except Flaw Second}
    (explained : Explains parts result)
    (explainedNext : ∀ value, Explains parts (next value)) :
    Explains parts (result >>= next) := by
  cases explained with
  | ok value => exact explainedNext value
  | unparseable depth => exact .unparseable depth
  | noValue isPart names depth => exact .noValue isPart names depth

theorem bothOf
    {first : Except Flaw First}
    {second : Except Flaw Second}
    (explained : Explains parts first)
    (explainedToo : Explains parts second) :
    Explains parts (Yaml.bothOf first second) := by
  have only {flaw : Flaw} {First Second : Type}
      (explained : Explains parts (Except.error flaw : Except Flaw First)) :
      Explains parts (Except.error flaw : Except Flaw Second) := by
    cases explained with
    | unparseable depth => exact .unparseable depth
    | noValue isPart names depth => exact .noValue isPart names depth
  match first, second with
  | .ok one, .ok other => exact .ok (one, other)
  | .error flaw, .ok _ => exact only explained
  | .ok _, .error flaw => exact only explainedToo
  | .error flaw, .error other =>
      rw [Yaml.bothOf]
      split
      · exact only explainedToo
      · exact only explained

theorem checkKey
    {key : Except Flaw Tree}
    (depth : Nat)
    (explained : Explains parts key) :
    Explains parts (Node.checkKey depth key) := by
  unfold Node.checkKey
  split
  · split
    · exact .ok _
    · exact .unparseable depth
  · split
    · exact explained
    · exact .unparseable depth

end Explains

variable {parts : Node → Prop}

theorem atDepth_explains
    {node : Node}
    {value : Except Fault Tree}
    (isPart : parts node)
    (names : ∀ fault, value = .error fault → fault ≠ .unparseable → node.NamesNoValue fault)
    (depth : Nat) :
    Explains parts (atDepth depth value) := by
  cases value with
  | ok tree => exact .ok tree
  | error fault =>
      by_cases grammatical : fault = .unparseable
      · subst grammatical
        exact .unparseable depth
      · exact .noValue isPart (names fault rfl grammatical) depth

-- The induction is on the node.  `parts` stays the same all the way down, so that a part found
-- deep inside needs no rebuilding on the way up; each step only shows that its nodes are parts.
mutual

theorem tree_explains : ∀ (depth : Nat) (node : Node),
    (∀ part, part.IsWithin node → parts part) → Explains parts (node.tree depth)
  | _, .cycle _, _ => .ok _
  | depth, .scalar tag text, isPart => by
      rw [tree]
      split
      · next value isScalar =>
          refine atDepth_explains (isPart _ (.here _)) (fun fault stops _ => ?_) depth
          exact .scalar (isScalar.trans (congrArg some stops))
      · exact .unparseable _
  | depth, .sequence tag items, isPart => by
      have inItems (item : Node) (member : item ∈ items) (part : Node)
          (within : part.IsWithin item) : parts part :=
        isPart part (.item member within)
      unfold tree
      split
      · next value isScalar =>
          rw [scalarTree_unparseable isScalar]
          exact .unparseable depth
      · split
        · exact .bind (itemTrees_explains _ items inItems) fun _ => .ok _
        · exact .bind (pairTrees_explains _ items inItems) fun _ => .ok _
        · exact .bind (pairTrees_explains _ items inItems) fun _ => .ok _
        · exact .unparseable _
  | depth, .mapping tag entries, isPart => by
      have inEntries (entry : Node × Node) (member : entry ∈ entries) (part : Node)
          (within : part.IsWithin entry.1 ∨ part.IsWithin entry.2) : parts part :=
        isPart part (.entry member within)
      rw [tree]
      split
      · next value isScalar =>
          refine atDepth_explains (isPart _ (.here _)) (fun fault stops other => ?_) depth
          cases standsFor : scalarTextIn entries with
          | ok text =>
              rw [standsFor] at isScalar
              exact .mapping standsFor (isScalar.trans (congrArg some stops))
          | error textFault =>
              rw [standsFor, fault_of_scalarTextIn standsFor] at isScalar
              rw [mappedScalarTree_unparseable isScalar, Except.error.injEq] at stops
              exact absurd stops.symm other
      · split
        · split
          · exact .unparseable _
          · exact .bind (.bothOf (mergedTrees_explains _ entries inEntries)
              (entryTrees_explains _ entries inEntries)) fun _ => .ok _
        · exact .unparseable _

theorem itemTrees_explains : ∀ (depth : Nat) (items : List Node),
    (∀ item ∈ items, ∀ part, part.IsWithin item → parts part) →
      Explains parts (itemTrees depth items)
  | _, [], _ => .ok _
  | depth, item :: rest, isPart =>
      .bind (.bothOf (tree_explains depth item (isPart item List.mem_cons_self))
        (itemTrees_explains depth rest fun item member =>
          isPart item (List.mem_cons_of_mem _ member))) fun _ => .ok _

theorem pairTrees_explains : ∀ (depth : Nat) (items : List Node),
    (∀ item ∈ items, ∀ part, part.IsWithin item → parts part) →
      Explains parts (pairTrees depth items)
  | _, [], _ => .ok _
  | depth, .mapping _ [(key, value)] :: rest, isPart =>
      have isPartHere := isPart _ List.mem_cons_self
      have keyExplained := tree_explains depth key fun part within =>
        isPartHere part (.key List.mem_cons_self within)
      have valueExplained := tree_explains depth value fun part within =>
        isPartHere part (.value List.mem_cons_self within)
      .bind (.bothOf (.bothOf keyExplained valueExplained)
        (pairTrees_explains depth rest fun item member =>
          isPart item (List.mem_cons_of_mem _ member))) fun _ => .ok _
  | depth, .mapping _ [] :: _, _ => .unparseable depth
  | depth, .mapping _ (_ :: _ :: _) :: _, _ => .unparseable depth
  | depth, .scalar _ _ :: _, _ => .unparseable depth
  | depth, .sequence _ _ :: _, _ => .unparseable depth
  | depth, .cycle _ :: _, _ => .unparseable depth

theorem entryTrees_explains : ∀ (depth : Nat) (entries : List (Node × Node)),
    (∀ entry ∈ entries, ∀ part, part.IsWithin entry.1 ∨ part.IsWithin entry.2 → parts part) →
      Explains parts (entryTrees depth entries)
  | _, [], _ => .ok _
  | depth, (key, value) :: rest, inEntries => by
      have inFirst := inEntries (key, value) List.mem_cons_self
      have restExplained := entryTrees_explains depth rest fun entry member =>
        inEntries entry (List.mem_cons_of_mem _ member)
      have keyExplained := tree_explains depth key fun part within => inFirst part (.inl within)
      have valueExplained := tree_explains depth value fun part within => inFirst part (.inr within)
      unfold entryTrees
      split
      · exact restExplained
      · simp only
        refine .bind (.bothOf (.bothOf (.checkKey depth ?_) valueExplained) restExplained)
          fun _ => .ok _
        split
        · exact .ok _
        · exact keyExplained

theorem mergedTrees_explains : ∀ (depth : Nat) (entries : List (Node × Node)),
    (∀ entry ∈ entries, ∀ part, part.IsWithin entry.1 ∨ part.IsWithin entry.2 → parts part) →
      Explains parts (mergedTrees depth entries)
  | _, [], _ => .ok _
  | depth, (key, value) :: rest, inEntries => by
      have inFirst := inEntries (key, value) List.mem_cons_self
      have restExplained := mergedTrees_explains depth rest fun entry member =>
        inEntries entry (List.mem_cons_of_mem _ member)
      rw [mergedTrees]
      split
      · have valueExplained := mergeTrees_explains depth value fun part within =>
          inFirst part (.inr within)
        exact .bind (.bothOf valueExplained restExplained) fun _ => .ok _
      · exact restExplained

theorem mergeTrees_explains : ∀ (depth : Nat) (node : Node),
    (∀ part, part.IsWithin node → parts part) → Explains parts (mergeTrees depth node)
  | depth, .mapping _ entries, isPart =>
      have inEntries (entry : Node × Node) (member : entry ∈ entries) (part : Node)
          (within : part.IsWithin entry.1 ∨ part.IsWithin entry.2) : parts part :=
        isPart part (.entry member within)
      .bind (.bothOf (mergedTrees_explains depth entries inEntries)
        (entryTrees_explains depth entries inEntries)) fun _ => .ok _
  | depth, .sequence _ items, isPart =>
      mergeItems_explains depth items fun _ member part within => isPart part (.item member within)
  | _, .scalar _ _, _ => .ok _
  | _, .cycle _, _ => .ok _

theorem mergeItems_explains : ∀ (depth : Nat) (items : List Node),
    (∀ item ∈ items, ∀ part, part.IsWithin item → parts part) →
      Explains parts (mergeItems depth items)
  | _, [], _ => .ok _
  | depth, item :: rest, isPart =>
      .bind (.bothOf (mergeItems_explains depth rest fun item member =>
          isPart item (List.mem_cons_of_mem _ member))
        (mergeTrees_explains depth item (isPart item List.mem_cons_self))) fun _ => .ok _

end

/-- A node of sound grammar has no value only if one of its parts names none. -/
theorem fault_of_tree?
    {node : Node}
    {fault : Fault}
    (stops : node.tree? = .error fault) :
    fault = .unparseable ∨ ∃ part : Node, part.IsWithin node ∧ part.NamesNoValue fault := by
  have explained : Explains (fun part => part.IsWithin node) (node.tree 0) :=
    tree_explains 0 node fun _ within => within
  unfold tree? at stops
  cases found : node.tree 0 with
  | ok tree =>
      rw [found] at stops
      exact absurd stops (by simp)
  | error flaw =>
      rw [found] at stops explained
      rw [← Except.error.inj stops]
      cases explained with
      | unparseable depth => exact .inl rfl
      | noValue isPart names depth => exact .inr ⟨_, isPart, names⟩

end Node

/-! ## Documents -/

/-- The text has a part that is meant to be a value and is none: an escape for a character
that does not exist, a number that is too long, or a node that is marked as a flag, a number or
a timestamp and names none. -/
inductive HasImpossiblePart (chars : List Char) : Fault → Prop
  | writing (stands : hasImpossibleNotation chars = true) :
      HasImpossiblePart chars .impossibleValue
  | node {tokens : List Token} {root part : Node} {fault : Fault} {tag : Tag}
      (scanned : Token.scan? chars = .ok tokens)
      (composed : Node.ofTokens? tokens = .ok (some root))
      (within : part.IsWithin root)
      (isTagged : part.tag? = some tag)
      (isNaming : tag ∈ Node.namingTags)
      (names : part.NamesNoValue fault) :
      HasImpossiblePart chars fault

/-- A text has no tree because the grammar forbids it, or because of an impossible part. -/
theorem fault_of_treeOfChars?
    {chars : List Char}
    {fault : Fault}
    (stops : treeOfChars? chars = .error fault)
    (allowed : fault ≠ .unparseable) :
    HasImpossiblePart chars fault := by
  unfold treeOfChars? at stops
  rcases bind_eq_error stops with stops | ⟨tokens, scanned, stops⟩
  · rcases fault_of_scan? stops with forbidden | ⟨rfl, stands⟩
    · exact absurd forbidden allowed
    · exact .writing stands
  have composing := Node.ofTokens?_grammar tokens
  rcases bind_eq_error stops with stops | ⟨composed, isComposed, stops⟩
  · rw [stops] at composing
    cases composing with
    | unparseable => exact absurd rfl allowed
  · cases composed with
    | none => exact absurd stops (by simp)
    | some root =>
        rcases Node.fault_of_tree? stops with forbidden | ⟨part, within, names⟩
        · exact absurd forbidden allowed
        · obtain ⟨tag, isNaming, isTagged⟩ := names.tag allowed
          exact .node scanned isComposed within isTagged isNaming names

/-- Bytes that are no text at all are forbidden by the grammar too. -/
theorem fault_of_treeOfBytes?
    {bytes : List UInt8}
    {fault : Fault}
    (stops : treeOfBytes? bytes = .error fault)
    (allowed : fault ≠ .unparseable) :
    ∃ chars, documentChars? bytes = .ok chars ∧ HasImpossiblePart chars fault := by
  have decoding : StopsByGrammar (documentChars? bytes) := by
    unfold documentChars?
    split
    · exact .unparseable
    · exact .ite (.ok _) .unparseable
  unfold treeOfBytes? at stops
  rcases bind_eq_error stops with stops | ⟨chars, decoded, stops⟩
  · rw [stops] at decoding
    cases decoding with
    | unparseable => exact absurd rfl allowed
  · exact ⟨chars, decoded, fault_of_treeOfChars? stops allowed⟩

end PhoneAccounts.Yaml

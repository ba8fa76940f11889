import PhoneAccounts.Proofs.Yaml.Layout.Outline
import PhoneAccounts.Yaml.Node

/-!
Contract: the nodes that the tokens of a written document make.

Owns: `Outline.node`, and reading it from the tokens.

Does not own: the tree that the nodes mean (see `PhoneAccounts.Proofs.Yaml.Meaning`).
-/

namespace PhoneAccounts.Yaml

open PhoneAccounts.Text

namespace Outline

mutual

/-- The node of an outline. -/
def node : Outline → Node
  | .text value => .scalar .text (rereadText value.toList)
  | .integer value => .scalar .integer (integerText value)
  | .flag value => .scalar .boolean (flagText value)
  | .sequence items => .sequence .sequence (itemNodes items)
  | .mapping entries => .mapping .mapping (entryNodes entries)

def itemNodes : List Outline → List Node
  | [] => []
  | item :: rest => item.node :: itemNodes rest

def entryNodes : List (String × Outline) → List (Node × Node)
  | [] => []
  | (key, value) :: rest => (.scalar .text key.toList, value.node) :: entryNodes rest

end

/-- The place of a node behind a key, or behind a dash. -/
def place (isBare : Bool) : Node.Place :=
  if isBare then .blockValue else .block

/-- The first token of an outline ends no collection, and begins an item only where a sequence
needs no start. -/
theorem tokens_eq_cons (isBare : Bool) (outline : Outline) :
    ∃ first others, outline.tokens isBare = first :: others ∧
      first ∉ [Token.key, .value, .blockEnd] ∧ (isBare = false → first ≠ .blockEntry) := by
  cases outline with
  | text value => exact ⟨_, _, rfl, by simp, by simp⟩
  | integer value => exact ⟨_, _, rfl, by simp, by simp⟩
  | flag value => exact ⟨_, _, rfl, by simp, by simp⟩
  | sequence items =>
      cases items with
      | nil => exact ⟨_, _, rfl, by simp, by simp⟩
      | cons item items => cases isBare <;> exact ⟨_, _, rfl, by simp, by simp⟩
  | mapping entries =>
      cases entries with
      | nil => exact ⟨_, _, rfl, by simp, by simp⟩
      | cons entry entries => exact ⟨_, _, rfl, by simp, by simp⟩

section

variable {handles : List (List Char × List Char)}

theorem read_scalar
    (fuel : Nat)
    (place : Node.Place)
    (text : List Char)
    (isPlain : Bool)
    (rest : List Token) :
    Node.read (fuel + 1) place ⟨.scalar text isPlain :: rest, [], handles⟩ =
      .ok (.scalar (if isPlain then Tag.ofPlain text else .text) text, ⟨rest, [], handles⟩) :=
  rfl

theorem read_emptySequence (fuel : Nat) (place : Node.Place) (rest : List Token) :
    Node.read (fuel + 2) place ⟨.flowSequenceStart :: .flowSequenceEnd :: rest, [], handles⟩ =
      .ok (.sequence .sequence [], ⟨rest, [], handles⟩) := by
  rfl

theorem read_emptyMapping (fuel : Nat) (place : Node.Place) (rest : List Token) :
    Node.read (fuel + 2) place ⟨.flowMappingStart :: .flowMappingEnd :: rest, [], handles⟩ =
      .ok (.mapping .mapping [], ⟨rest, [], handles⟩) := by
  rfl

theorem read_bareItems (fuel : Nat) (rest : List Token) :
    Node.read (fuel + 1) .blockValue ⟨.blockEntry :: rest, [], handles⟩ =
      Node.readBareItems fuel ⟨.blockEntry :: rest, [], handles⟩ >>= fun found =>
        .ok (.sequence .sequence found.1, found.2) :=
  rfl

theorem read_blockItems (fuel : Nat) (rest : List Token) :
    Node.read (fuel + 1) .block ⟨.blockSequenceStart :: rest, [], handles⟩ =
      Node.readBlockItems fuel ⟨rest, [], handles⟩ >>= fun found =>
        .ok (.sequence .sequence found.1, found.2) :=
  rfl

theorem read_blockEntries (fuel : Nat) (isBare : Bool) (rest : List Token) :
    Node.read (fuel + 1) (place isBare) ⟨.blockMappingStart :: rest, [], handles⟩ =
      Node.readBlockEntries fuel ⟨rest, [], handles⟩ >>= fun found =>
        .ok (.mapping .mapping found.1, found.2) := by
  cases isBare <;> rfl

theorem readBareItems_cons (fuel : Nat) (rest : List Token) :
    Node.readBareItems (fuel + 1) ⟨.blockEntry :: rest, [], handles⟩ =
      Node.readUnless fuel [.blockEntry, .key, .value, .blockEnd] .block ⟨rest, [], handles⟩ >>=
        fun item => Node.readBareItems fuel item.2 >>= fun items =>
          .ok (item.1 :: items.1, items.2) :=
  rfl

theorem readBareItems_end
    (fuel : Nat)
    {rest : List Token}
    (ends : rest.head? ≠ some .blockEntry) :
    Node.readBareItems (fuel + 1) ⟨rest, [], handles⟩ = .ok ([], ⟨rest, [], handles⟩) := by
  cases rest with
  | nil => rfl
  | cons first others =>
      have noEntry : first ≠ .blockEntry := fun same => ends (congrArg some same)
      rw [Node.readBareItems]
      split
      · next entry => exact absurd entry noEntry
      · rfl

theorem readBlockItems_cons (fuel : Nat) (rest : List Token) :
    Node.readBlockItems (fuel + 1) ⟨.blockEntry :: rest, [], handles⟩ =
      Node.readUnless fuel [.blockEntry, .blockEnd] .block ⟨rest, [], handles⟩ >>=
        fun item => Node.readBlockItems fuel item.2 >>= fun items =>
          .ok (item.1 :: items.1, items.2) :=
  rfl

theorem readBlockEntries_cons (fuel : Nat) (key : List Char) (rest : List Token) :
    Node.readBlockEntries (fuel + 3) ⟨.key :: .scalar key true :: .value :: rest, [], handles⟩ =
      Node.readUnless (fuel + 2) [.key, .value, .blockEnd] .blockValue ⟨rest, [], handles⟩ >>=
        fun value => Node.readBlockEntries (fuel + 2) value.2 >>= fun entries =>
          .ok ((.scalar (Tag.ofPlain key) key, value.1) :: entries.1, entries.2) :=
  rfl

/-- A node that is there is read. -/
theorem readUnless_of_tokens
    {isBare : Bool}
    {outline : Outline}
    {ends : List Token}
    (noEnd : ∀ token ∈ ends,
      token ∈ [Token.key, .value, .blockEnd] ∨ (isBare = false ∧ token = .blockEntry))
    {place : Node.Place}
    {rest : List Token}
    {found : Except Fault (Node × TokenSource)}
    {fuel : Nat}
    (read : Node.read fuel place ⟨outline.tokens isBare ++ rest, [], handles⟩ = found) :
    Node.readUnless (fuel + 1) ends place ⟨outline.tokens isBare ++ rest, [], handles⟩ = found := by
  obtain ⟨first, others, shown, noClose, noEntry⟩ := tokens_eq_cons isBare outline
  have goesOn : TokenSource.isAt ⟨outline.tokens isBare ++ rest, [], handles⟩ ends = false := by
    rw [TokenSource.isAt, TokenSource.next, shown, List.contains_eq_mem, decide_eq_false_iff_not]
    intro member
    rcases noEnd first member with close | ⟨notBare, entry⟩
    · exact noClose close
    · exact noEntry notBare entry
  rw [Node.readUnless, goesOn]
  exact read

/-- A text that looks like another kind of value is not written as a plain one. -/
theorem scalarTag_text (chars : List Char) :
    (if TextStyle.of chars == .plain then Tag.ofPlain (rereadText chars) else .text) =
      Tag.text := by
  unfold rereadText
  cases style : TextStyle.of chars with
  | plain => exact (allowsPlain_of_plain style).2
  | singleQuoted => rfl
  | doubleQuoted => rfl

mutual

/-- The tokens of an outline are read as its node. -/
theorem read_tokens
    (isBare : Bool)
    (outline : Outline)
    (sound : outline.IsSound)
    {fuel : Nat}
    (enough : 3 * (outline.tokens isBare).length + 2 ≤ fuel)
    {rest : List Token}
    (ends : isBare = true → rest.head? ≠ some .blockEntry) :
    Node.read fuel (place isBare) ⟨outline.tokens isBare ++ rest, [], handles⟩ =
      .ok (outline.node, ⟨rest, [], handles⟩) := by
  obtain ⟨fuel, rfl⟩ := Nat.exists_eq_add_of_le' (Nat.le_of_add_left_le enough)
  cases outline with
  | text value =>
      rw [Outline.tokens, List.singleton_append, read_scalar, scalarTag_text, node]
  | integer value =>
      rw [Outline.tokens, List.singleton_append, read_scalar, ofPlain_integerText, node]
      rfl
  | flag value =>
      have isFlag : Tag.ofPlain (flagText value) = .boolean := by cases value <;> decide
      rw [Outline.tokens, List.singleton_append, read_scalar, isFlag, node]
      rfl
  | sequence items =>
      cases items with
      | nil => exact read_emptySequence fuel _ rest
      | cons item items =>
          cases isBare with
          | true =>
              have shown : Outline.tokens true (.sequence (item :: items)) ++ rest =
                  .blockEntry :: (item.tokens false ++ itemsTokens items ++ rest) := by
                rw [Outline.tokens, if_pos rfl, itemsTokens]
                rfl
              have shorter : 3 * (itemsTokens (item :: items)).length + 1 ≤ fuel + 1 := by
                simp only [Outline.tokens, if_true] at enough
                omega
              have found := read_bare (item :: items) sound shorter (ends rfl)
              rw [itemsTokens, List.cons_append, List.cons_append] at found
              rw [shown, place, if_pos rfl, read_bareItems, found]
              rfl
          | false =>
              have shown : Outline.tokens false (.sequence (item :: items)) ++ rest =
                  .blockSequenceStart :: (itemsTokens (item :: items) ++ .blockEnd :: rest) := by
                simp [Outline.tokens]
              have shorter : 3 * (itemsTokens (item :: items)).length + 1 ≤ fuel + 1 := by
                simp [Outline.tokens] at enough
                omega
              rw [shown, place, if_neg Bool.false_ne_true, read_blockItems,
                read_items (item :: items) sound shorter]
              rfl
  | mapping entries =>
      cases entries with
      | nil => exact read_emptyMapping fuel _ rest
      | cons entry entries =>
          have shown : Outline.tokens isBare (.mapping (entry :: entries)) ++ rest =
              .blockMappingStart :: (entriesTokens (entry :: entries) ++ .blockEnd :: rest) := by
            simp [Outline.tokens]
          have shorter : 3 * (entriesTokens (entry :: entries)).length + 1 ≤ fuel + 1 := by
            simp only [Outline.tokens, List.length_append, List.length_cons] at enough
            omega
          rw [shown, read_blockEntries, read_entries (entry :: entries) sound.2 shorter]
          rfl

/-- The items of a sequence that is not indented. -/
theorem read_bare
    (items : List Outline)
    (sound : AreSound items)
    {fuel : Nat}
    (enough : 3 * (itemsTokens items).length + 1 ≤ fuel)
    {rest : List Token}
    (ends : rest.head? ≠ some .blockEntry) :
    Node.readBareItems fuel ⟨itemsTokens items ++ rest, [], handles⟩ =
      .ok (itemNodes items, ⟨rest, [], handles⟩) := by
  obtain ⟨fuel, rfl⟩ := Nat.exists_eq_add_of_le' (Nat.le_of_add_left_le enough)
  cases items with
  | nil => exact readBareItems_end fuel ends
  | cons item items =>
      have sizes : 3 * ((item.tokens false).length + (itemsTokens items).length) + 3 ≤ fuel := by
        simp only [itemsTokens, List.length_append, List.length_cons] at enough
        omega
      obtain ⟨fuel, rfl⟩ : ∃ less, fuel = less + 1 := ⟨fuel - 1, by omega⟩
      have itemRead : Node.readUnless (fuel + 1) [.blockEntry, .key, .value, .blockEnd] .block
          ⟨item.tokens false ++ (itemsTokens items ++ rest), [], handles⟩ =
            .ok (item.node, ⟨itemsTokens items ++ rest, [], handles⟩) :=
        readUnless_of_tokens (by simp) (read_tokens false item sound.1 (by omega) nofun)
      rw [itemsTokens, List.cons_append, List.cons_append, List.append_assoc, readBareItems_cons,
        itemRead]
      show Node.readBareItems (fuel + 1) ⟨itemsTokens items ++ rest, [], handles⟩ >>= _ = _
      rw [read_bare items sound.2 (by omega) ends]
      rfl

/-- The items of a sequence with an end. -/
theorem read_items
    (items : List Outline)
    (sound : AreSound items)
    {fuel : Nat}
    (enough : 3 * (itemsTokens items).length + 1 ≤ fuel)
    {rest : List Token} :
    Node.readBlockItems fuel ⟨itemsTokens items ++ .blockEnd :: rest, [], handles⟩ =
      .ok (itemNodes items, ⟨rest, [], handles⟩) := by
  obtain ⟨fuel, rfl⟩ := Nat.exists_eq_add_of_le' (Nat.le_of_add_left_le enough)
  cases items with
  | nil => rfl
  | cons item items =>
      have sizes : 3 * ((item.tokens false).length + (itemsTokens items).length) + 3 ≤ fuel := by
        simp only [itemsTokens, List.length_append, List.length_cons] at enough
        omega
      obtain ⟨fuel, rfl⟩ : ∃ less, fuel = less + 1 := ⟨fuel - 1, by omega⟩
      have itemRead : Node.readUnless (fuel + 1) [.blockEntry, .blockEnd] .block
          ⟨item.tokens false ++ (itemsTokens items ++ .blockEnd :: rest), [], handles⟩ =
            .ok (item.node, ⟨itemsTokens items ++ .blockEnd :: rest, [], handles⟩) :=
        readUnless_of_tokens (by simp) (read_tokens false item sound.1 (by omega) nofun)
      rw [itemsTokens, List.cons_append, List.cons_append, List.append_assoc, readBlockItems_cons,
        itemRead]
      show Node.readBlockItems (fuel + 1) ⟨itemsTokens items ++ .blockEnd :: rest, [], handles⟩ >>=
        _ = _
      rw [read_items items sound.2 (by omega)]
      rfl

/-- The entries of a mapping. -/
theorem read_entries
    (entries : List (String × Outline))
    (sound : AreSoundEntries entries)
    {fuel : Nat}
    (enough : 3 * (entriesTokens entries).length + 1 ≤ fuel)
    {rest : List Token} :
    Node.readBlockEntries fuel ⟨entriesTokens entries ++ .blockEnd :: rest, [], handles⟩ =
      .ok (entryNodes entries, ⟨rest, [], handles⟩) := by
  obtain ⟨fuel, rfl⟩ := Nat.exists_eq_add_of_le' (Nat.le_of_add_left_le enough)
  cases entries with
  | nil => rfl
  | cons entry entries =>
      obtain ⟨key, value⟩ := entry
      obtain ⟨isKey, valueSound, entriesSound⟩ := sound
      have sizes :
          3 * ((value.tokens true).length + (entriesTokens entries).length) + 9 ≤ fuel := by
        simp only [entriesTokens, List.length_append, List.length_cons] at enough
        omega
      obtain ⟨fuel, rfl⟩ : ∃ less, fuel = less + 2 := ⟨fuel - 2, by omega⟩
      have noEntry : (entriesTokens entries ++ .blockEnd :: rest).head? ≠ some .blockEntry := by
        cases entries <;> simp [entriesTokens]
      have valueRead : Node.readUnless (fuel + 2) [.key, .value, .blockEnd] .blockValue
          ⟨value.tokens true ++ (entriesTokens entries ++ .blockEnd :: rest), [], handles⟩ =
            .ok (value.node, ⟨entriesTokens entries ++ .blockEnd :: rest, [], handles⟩) :=
        readUnless_of_tokens (by simp)
          (read_tokens true value valueSound (by omega) fun _ => noEntry)
      have shown : entriesTokens ((key, value) :: entries) ++ .blockEnd :: rest =
          .key :: .scalar key.toList true :: .value ::
            (value.tokens true ++ (entriesTokens entries ++ .blockEnd :: rest)) := by
        simp [entriesTokens]
      rw [shown, readBlockEntries_cons, isKey.isText, valueRead]
      show Node.readBlockEntries (fuel + 2) ⟨entriesTokens entries ++ .blockEnd :: rest, [],
        handles⟩ >>= _ = _
      rw [read_entries entries entriesSound (by omega)]
      rfl

end

end

/-- The root of a written document. -/
theorem ofTokens?_document
    {entries : List (String × Outline)}
    (sound : AreSoundEntries entries) :
    Node.ofTokens? (.blockMappingStart :: entriesTokens entries ++ [.blockEnd, .streamEnd]) =
      .ok (some (.mapping .mapping (entryNodes entries))) := by
  have whole : Token.blockMappingStart :: entriesTokens entries ++ [.blockEnd, .streamEnd] =
      .blockMappingStart :: (entriesTokens entries ++ .blockEnd :: [.streamEnd]) := rfl
  rw [whole]
  generalize sized : Node.fuelFor
    (.blockMappingStart :: (entriesTokens entries ++ .blockEnd :: [.streamEnd])) = fuel
  obtain ⟨fuel, rfl, enough⟩ :
      ∃ less, fuel = less + 1 ∧ 3 * (entriesTokens entries).length + 1 ≤ less := by
    refine ⟨fuel - 1, ?_⟩
    simp only [Node.fuelFor, List.length_cons, List.length_append] at sized
    omega
  have root : Node.read (fuel + 1) .block
      ⟨.blockMappingStart :: (entriesTokens entries ++ .blockEnd :: [.streamEnd]), [],
        Node.usualHandles⟩ =
      .ok (.mapping .mapping (entryNodes entries), ⟨[.streamEnd], [], Node.usualHandles⟩) := by
    have step : Node.read (fuel + 1) (place false) ⟨.blockMappingStart ::
        (entriesTokens entries ++ .blockEnd :: [.streamEnd]), [], Node.usualHandles⟩ = _ :=
      read_blockEntries fuel false _
    rw [read_entries entries sound enough] at step
    exact step
  show (Node.read (Node.fuelFor (.blockMappingStart ::
    (entriesTokens entries ++ .blockEnd :: [.streamEnd]))) .block _ >>= _) = _
  rw [sized, root]
  rfl

end Outline

end PhoneAccounts.Yaml

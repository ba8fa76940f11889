import PhoneAccounts.Proofs.Yaml.Layout.LineEnd

/-!
Contract: the tokens of a document that is written.

Owns: the tokens of an outline, the outlines that can be read, and scanning their text.

Does not own: the nodes that the tokens make (see `PhoneAccounts.Proofs.Yaml.Node`).
-/

namespace PhoneAccounts.Yaml

open PhoneAccounts.Text

namespace Outline

/-! ## Tokens -/

mutual

/-- The tokens of an outline.  A sequence that is not indented has no start and no end. -/
def tokens (isBare : Bool) : Outline → List Token
  | .text value => [.scalar (rereadText value.toList) (TextStyle.of value.toList == .plain)]
  | .integer value => [.scalar (integerText value) true]
  | .flag value => [.scalar (flagText value) true]
  | .sequence [] => [.flowSequenceStart, .flowSequenceEnd]
  | .sequence (item :: items) =>
      if isBare then itemsTokens (item :: items)
      else .blockSequenceStart :: itemsTokens (item :: items) ++ [.blockEnd]
  | .mapping [] => [.flowMappingStart, .flowMappingEnd]
  | .mapping (entry :: entries) =>
      .blockMappingStart :: entriesTokens (entry :: entries) ++ [.blockEnd]

def itemsTokens : List Outline → List Token
  | [] => []
  | item :: rest => .blockEntry :: item.tokens false ++ itemsTokens rest

def entriesTokens : List (String × Outline) → List Token
  | [] => []
  | (key, value) :: rest =>
      .key :: .scalar key.toList true :: .value :: value.tokens true ++ entriesTokens rest

end

/-! ## Documents that can be read -/

/-- A key that is written as it is and read as a text. -/
structure IsKey (key : String) : Prop where
  word : Lexer.IsKeyWord key.toList
  isText : Tag.ofPlain key.toList = .text

instance (key : String) : Decidable (IsKey key) :=
  decidable_of_iff (Lexer.IsKeyWord key.toList ∧ Tag.ofPlain key.toList = .text)
    ⟨fun ⟨word, isText⟩ => ⟨word, isText⟩, fun isKey => ⟨isKey.word, isKey.isText⟩⟩

/-- An integer has no more digits than are read. -/
def IsShort (value : Int) : Prop :=
  (naturalText value.natAbs).length ≤ longestDecimalNumeral

instance (value : Int) : Decidable (IsShort value) :=
  inferInstanceAs (Decidable ((naturalText value.natAbs).length ≤ longestDecimalNumeral))

mutual

/-- The keys are words, those of one mapping are different, and the integers are short. -/
def IsSound : Outline → Prop
  | .text _ => True
  | .integer value => IsShort value
  | .flag _ => True
  | .sequence items => AreSound items
  | .mapping entries => (entries.map Prod.fst).Nodup ∧ AreSoundEntries entries

def AreSound : List Outline → Prop
  | [] => True
  | item :: rest => item.IsSound ∧ AreSound rest

def AreSoundEntries : List (String × Outline) → Prop
  | [] => True
  | (key, value) :: rest => IsKey key ∧ value.IsSound ∧ AreSoundEntries rest

end

mutual

/-- How many collections lie inside each other. -/
def depth : Outline → Nat
  | .text _ => 0
  | .integer _ => 0
  | .flag _ => 0
  | .sequence items => itemsDepth items + 1
  | .mapping entries => entriesDepth entries + 1

def itemsDepth : List Outline → Nat
  | [] => 0
  | item :: rest => max item.depth (itemsDepth rest)

def entriesDepth : List (String × Outline) → Nat
  | [] => 0
  | (_, value) :: rest => max value.depth (entriesDepth rest)

end

/-! ## Scanning -/

open Lexer

/-- What stands behind a space and ends with its line. -/
theorem scans_of_endsLine
    {column most index line : Nat}
    {body text : List Char}
    {found produced : List Token}
    {indent : Nat}
    {outer : List Int}
    {tokens : List Token}
    {allowed : Bool}
    (ends : EndsLine (indent + step) body found)
    (shallow : most ≤ indent)
    (deeper : indent ≤ column)
    (scans : ScansLine most text (found.reverse ++ produced) indent outer tokens) :
    Scans ⟨⟨' ' :: body ++ '\n' :: text, index, line, column⟩, produced, indent, outer, allowed,
      none, []⟩ tokens := by
  have shallowInt : (most : Int) ≤ indent := Int.ofNat_le.mpr shallow
  have deepInt : (indent : Int) < (indent + step : Nat) := by
    simp only [step]
    omega
  have deeperInt : (indent : Int) < (column + 1 : Nat) := by omega
  show Scans ⟨⟨List.replicate 1 ' ' ++ (body ++ '\n' :: text), index, line, column⟩, produced,
    indent, outer, allowed, none, []⟩ tokens
  exact Scans.spaces (ends.starts _) (ends.scans shallowInt deepInt deeperInt scans)

theorem lt_add_step (indent : Nat) : indent < indent + step :=
  Nat.lt_add_of_pos_right (by decide)

theorem blank_valueText
    (indent column : Nat)
    (outline : Outline)
    (rest : List Char) :
    isBlankOrEnd ((valueText indent column outline ++ rest).headD endMark) = true := by
  unfold valueText
  split <;> rfl

theorem itemText_eq_cons (indent : Nat) (outline : Outline) :
    ∃ after, itemText indent outline = ' ' :: after := by
  unfold itemText
  split <;> exact ⟨_, rfl⟩

theorem itemsText_false
    (indent : Nat)
    (item : Outline)
    (items : List Outline)
    (text : List Char) :
    itemsText indent false (item :: items) ++ text =
      List.replicate indent ' ' ++ (itemsText indent true (item :: items) ++ text) := by
  simp [itemsText, Outline.spaces]

theorem itemsText_cons
    (indent : Nat)
    (item : Outline)
    (items : List Outline)
    (text : List Char) :
    itemsText indent true (item :: items) ++ text =
      '-' :: (itemText indent item ++ (itemsText indent false items ++ text)) := by
  simp [itemsText]

theorem entriesText_false
    (indent : Nat)
    (entry : String × Outline)
    (entries : List (String × Outline))
    (text : List Char) :
    entriesText indent false (entry :: entries) ++ text =
      List.replicate indent ' ' ++ (entriesText indent true (entry :: entries) ++ text) := by
  obtain ⟨key, value⟩ := entry
  simp [entriesText, Outline.spaces]

theorem entriesText_cons
    (key : String)
    (value : Outline)
    (indent : Nat)
    (entries : List (String × Outline))
    (text : List Char) :
    entriesText indent true ((key, value) :: entries) ++ text =
      key.toList ++ ':' :: (valueText indent (indent + key.length + 1) value ++
        (entriesText indent false entries ++ text)) := by
  simp [entriesText]

mutual

/-- What stands behind the colon of a key is read as its tokens. -/
theorem scans_value
    {indent : Nat}
    (outline : Outline)
    (sound : outline.IsSound)
    (narrow : indent + step * (outline.depth + 1) < bestWidth)
    {most : Nat}
    (shallow : most ≤ indent)
    {text : List Char}
    {produced : List Token}
    {outer : List Int}
    {tokens : List Token}
    (scans : ScansLine most text ((outline.tokens true).reverse ++ produced) indent outer tokens)
    (written index line column : Nat)
    (deeper : indent ≤ column) :
    Scans ⟨⟨valueText indent written outline ++ text, index, line, column⟩, produced, indent, outer,
      false, none, []⟩ tokens := by
  have positive : 0 < indent + step := Nat.lt_of_lt_of_le (by decide) (Nat.le_add_left step indent)
  cases outline with
  | text value =>
      have fits : indent + step < bestWidth := by simpa [depth] using narrow
      have ends := EndsLine.scalarText positive fits (written + 1) value.toList
      rw [valueText, List.append_assoc]
      exact scans_of_endsLine ends shallow deeper scans
  | integer value =>
      rw [valueText, List.append_assoc]
      exact scans_of_endsLine (EndsLine.integer _ value) shallow deeper scans
  | flag value =>
      rw [valueText, List.append_assoc]
      exact scans_of_endsLine (EndsLine.flag _ value) shallow deeper scans
  | sequence items =>
      cases items with
      | nil => exact scans_of_endsLine (EndsLine.emptySequence _) shallow deeper scans
      | cons item items =>
          have fits : indent + step * (itemsDepth (item :: items) + 1) < bestWidth := by
            simp only [depth, step] at narrow ⊢
            omega
          have lines := scans_items (item :: items) sound fits shallow scans
          rw [valueText]
          exact lines.newLine index column false (by simp)
  | mapping entries =>
      cases entries with
      | nil => exact scans_of_endsLine (EndsLine.emptyMapping _) shallow deeper scans
      | cons entry entries =>
          have fits :
              indent + step + step * (entriesDepth (entry :: entries) + 1) < bestWidth := by
            simp only [depth, step] at narrow ⊢
            omega
          have shallower := Nat.lt_of_le_of_lt shallow (lt_add_step indent)
          have inside : ScansLine most text
              ((entriesTokens (entry :: entries)).reverse ++ .blockMappingStart :: produced)
              (indent + step : Nat) (indent :: outer) tokens :=
            ScansLine.blockEnd (by simpa [Outline.tokens] using scans) (Int.ofNat_lt.mpr shallower)
          obtain ⟨begins, found⟩ := scans_mapping (entry :: entries) (by simp) sound.2 fits
            (Nat.le_of_lt shallower) (Int.ofNat_lt.mpr (lt_add_step indent)) inside
          have lines : ScansLine (indent + step)
              (entriesText (indent + step) false (entry :: entries) ++ text) produced indent outer
              tokens :=
            ⟨indent + step, _, Nat.le_refl _, entriesText_false _ _ _ _, begins, found⟩
          rw [valueText]
          exact lines.newLine index column false (by simp)

/-- What stands behind a dash is read as its tokens. -/
theorem scans_item
    {indent : Nat}
    (outline : Outline)
    (sound : outline.IsSound)
    (narrow : indent + step * (outline.depth + 1) < bestWidth)
    {most : Nat}
    (shallow : most ≤ indent)
    {text : List Char}
    {produced : List Token}
    {outer : List Int}
    {tokens : List Token}
    (scans : ScansLine most text ((outline.tokens false).reverse ++ produced) indent outer tokens)
    (index line : Nat) :
    Scans (ready ⟨itemText indent outline ++ text, index, line, indent + 1⟩ produced indent outer)
      tokens := by
  have positive : 0 < indent + step := Nat.lt_of_lt_of_le (by decide) (Nat.le_add_left step indent)
  have deeper : indent ≤ indent + 1 := Nat.le_succ indent
  cases outline with
  | text value =>
      have fits : indent + step < bestWidth := by simpa [depth] using narrow
      have ends := EndsLine.scalarText positive fits (indent + step) value.toList
      rw [itemText, List.append_assoc]
      exact scans_of_endsLine ends shallow deeper scans
  | integer value =>
      rw [itemText, List.append_assoc]
      exact scans_of_endsLine (EndsLine.integer _ value) shallow deeper scans
  | flag value =>
      rw [itemText, List.append_assoc]
      exact scans_of_endsLine (EndsLine.flag _ value) shallow deeper scans
  | sequence items =>
      cases items with
      | nil => exact scans_of_endsLine (EndsLine.emptySequence _) shallow deeper scans
      | cons item items =>
          have fits : indent + step + step * (itemsDepth (item :: items) + 1) < bestWidth := by
            simp only [depth, step] at narrow ⊢
            omega
          have shallower := Nat.lt_of_le_of_lt shallow (lt_add_step indent)
          have inside : ScansLine most text
              ((itemsTokens (item :: items)).reverse ++ .blockSequenceStart :: produced)
              (indent + step : Nat) (indent :: outer) tokens :=
            ScansLine.blockEnd (by simpa [Outline.tokens] using scans) (Int.ofNat_lt.mpr shallower)
          obtain ⟨begins, found⟩ := scans_sequence (item :: items) (by simp) sound fits
            (Nat.le_of_lt shallower) (Int.ofNat_lt.mpr (lt_add_step indent)) inside
          rw [itemText]
          show Scans ⟨⟨List.replicate 1 ' ' ++ (itemsText (indent + step) true (item :: items) ++
            text), index, line, indent + 1⟩, produced, indent, outer, true, none, []⟩ tokens
          exact Scans.spaces begins.startsToken (found _ _)
  | mapping entries =>
      cases entries with
      | nil => exact scans_of_endsLine (EndsLine.emptyMapping _) shallow deeper scans
      | cons entry entries =>
          have fits :
              indent + step + step * (entriesDepth (entry :: entries) + 1) < bestWidth := by
            simp only [depth, step] at narrow ⊢
            omega
          have shallower := Nat.lt_of_le_of_lt shallow (lt_add_step indent)
          have inside : ScansLine most text
              ((entriesTokens (entry :: entries)).reverse ++ .blockMappingStart :: produced)
              (indent + step : Nat) (indent :: outer) tokens :=
            ScansLine.blockEnd (by simpa [Outline.tokens] using scans) (Int.ofNat_lt.mpr shallower)
          obtain ⟨begins, found⟩ := scans_mapping (entry :: entries) (by simp) sound.2 fits
            (Nat.le_of_lt shallower) (Int.ofNat_lt.mpr (lt_add_step indent)) inside
          rw [itemText]
          show Scans ⟨⟨List.replicate 1 ' ' ++ (entriesText (indent + step) true (entry :: entries) ++
            text), index, line, indent + 1⟩, produced, indent, outer, true, none, []⟩ tokens
          exact Scans.spaces begins.startsToken (found _ _)

/-- The lines of items, behind the first dash of their sequence. -/
theorem scans_items
    {indent : Nat}
    (items : List Outline)
    (sound : AreSound items)
    (narrow : indent + step * (itemsDepth items + 1) < bestWidth)
    {most : Nat}
    (shallow : most ≤ indent)
    {text : List Char}
    {produced : List Token}
    {outer : List Int}
    {tokens : List Token}
    (scans : ScansLine most text ((itemsTokens items).reverse ++ produced) indent outer tokens) :
    ScansLine indent (itemsText indent false items ++ text) produced indent outer tokens := by
  cases items with
  | nil => exact scans.mono shallow
  | cons item items =>
      simp only [itemsDepth, step] at narrow
      have later : ScansLine indent (itemsText indent false items ++ text)
          ((item.tokens false).reverse ++ .blockEntry :: produced) indent outer tokens :=
        scans_items items sound.2 (by simp only [step]; omega) shallow
          (by simpa [itemsTokens] using scans)
      obtain ⟨after, shown⟩ := itemText_eq_cons indent item
      refine ⟨indent, _, Nat.le_refl _, itemsText_false _ _ _ _, ?_, fun index line => ?_⟩
      · rw [itemsText_cons, shown]
        exact .inr (.inl ⟨_, rfl⟩)
      · have found := scans_item item sound.1 (by simp only [step]; omega) (Nat.le_refl _) later
          (index + 1) line
        rw [shown] at found
        rw [itemsText_cons, shown]
        exact Scans.nextDash found

/-- The lines of entries, behind the first key of their mapping. -/
theorem scans_entries
    {indent : Nat}
    (entries : List (String × Outline))
    (sound : AreSoundEntries entries)
    (narrow : indent + step * (entriesDepth entries + 1) < bestWidth)
    {most : Nat}
    (shallow : most ≤ indent)
    {text : List Char}
    {produced : List Token}
    {outer : List Int}
    {tokens : List Token}
    (scans : ScansLine most text ((entriesTokens entries).reverse ++ produced) indent outer tokens) :
    ScansLine indent (entriesText indent false entries ++ text) produced indent outer tokens := by
  cases entries with
  | nil => exact scans.mono shallow
  | cons entry entries =>
      obtain ⟨key, value⟩ := entry
      obtain ⟨isKey, valueSound, entriesSound⟩ := sound
      simp only [entriesDepth, step] at narrow
      have later : ScansLine indent (entriesText indent false entries ++ text)
          ((value.tokens true).reverse ++ .value :: .scalar key.toList true :: .key :: produced)
          indent outer tokens :=
        scans_entries entries entriesSound (by simp only [step]; omega) shallow
          (by simpa [entriesTokens] using scans)
      refine ⟨indent, _, Nat.le_refl _, entriesText_false _ _ _ _, ?_, fun index line => ?_⟩
      · rw [entriesText_cons]
        exact isKey.word.begins _
      · rw [entriesText_cons]
        refine Scans.nextKey isKey.word (blank_valueText _ _ _ _) ?_
        exact scans_value value valueSound (by simp only [step]; omega) (Nat.le_refl _) later _ _ _ _
          (by omega)

/-- A sequence from its first dash on, which lies deeper than the block around it. -/
theorem scans_sequence
    {indent : Nat}
    (items : List Outline)
    (nonempty : items ≠ [])
    (sound : AreSound items)
    (narrow : indent + step * (itemsDepth items + 1) < bestWidth)
    {most : Nat}
    (shallow : most ≤ indent)
    {text : List Char}
    {produced : List Token}
    {around : Int}
    {outer : List Int}
    {tokens : List Token}
    (deeper : around < indent)
    (scans : ScansLine most text ((itemsTokens items).reverse ++ .blockSequenceStart :: produced) indent
      (around :: outer) tokens) :
    BeginsToken (itemsText indent true items ++ text) ∧
      ∀ index line,
        Scans (ready ⟨itemsText indent true items ++ text, index, line, indent⟩ produced around outer)
          tokens := by
  cases items with
  | nil => exact absurd rfl nonempty
  | cons item items =>
      simp only [itemsDepth, step] at narrow
      have later : ScansLine indent (itemsText indent false items ++ text)
          ((item.tokens false).reverse ++ .blockEntry :: .blockSequenceStart :: produced) indent
          (around :: outer) tokens :=
        scans_items items sound.2 (by simp only [step]; omega) shallow
          (by simpa [itemsTokens] using scans)
      obtain ⟨after, shown⟩ := itemText_eq_cons indent item
      rw [itemsText_cons, shown]
      refine ⟨.inr (.inl ⟨_, rfl⟩), fun index line => Scans.firstDash deeper ?_⟩
      have found := scans_item item sound.1 (by simp only [step]; omega) (Nat.le_refl _) later
        (index + 1) line
      rw [shown] at found
      exact found

/-- A mapping from its first key on, which lies deeper than the block around it. -/
theorem scans_mapping
    {indent : Nat}
    (entries : List (String × Outline))
    (nonempty : entries ≠ [])
    (sound : AreSoundEntries entries)
    (narrow : indent + step * (entriesDepth entries + 1) < bestWidth)
    {most : Nat}
    (shallow : most ≤ indent)
    {text : List Char}
    {produced : List Token}
    {around : Int}
    {outer : List Int}
    {tokens : List Token}
    (deeper : around < indent)
    (scans : ScansLine most text ((entriesTokens entries).reverse ++ .blockMappingStart :: produced) indent
      (around :: outer) tokens) :
    BeginsToken (entriesText indent true entries ++ text) ∧
      ∀ index line,
        Scans
          (ready ⟨entriesText indent true entries ++ text, index, line, indent⟩ produced around outer)
          tokens := by
  cases entries with
  | nil => exact absurd rfl nonempty
  | cons entry entries =>
      obtain ⟨key, value⟩ := entry
      obtain ⟨isKey, valueSound, entriesSound⟩ := sound
      simp only [entriesDepth, step] at narrow
      have later : ScansLine indent (entriesText indent false entries ++ text)
          ((value.tokens true).reverse ++
            .value :: .scalar key.toList true :: .key :: .blockMappingStart :: produced) indent
          (around :: outer) tokens :=
        scans_entries entries entriesSound (by simp only [step]; omega) shallow
          (by simpa [entriesTokens] using scans)
      rw [entriesText_cons]
      refine ⟨isKey.word.begins _, fun index line => ?_⟩
      refine Scans.firstKey isKey.word (blank_valueText _ _ _ _) deeper ?_
      exact scans_value value valueSound (by simp only [step]; omega) (Nat.le_refl _) later _ _ _ _
        (by omega)

end

/-- The tokens of a whole document. -/
theorem scan?_documentText
    {entries : List (String × Outline)}
    (nonempty : entries ≠ [])
    (sound : AreSoundEntries entries)
    (narrow : step * (entriesDepth entries + 1) < bestWidth) :
    Token.scan? (documentText entries) =
      .ok (.blockMappingStart :: entriesTokens entries ++ [.blockEnd, .streamEnd]) := by
  obtain ⟨entry, others, rfl⟩ := List.exists_cons_of_ne_nil nonempty
  have fits : 0 + step * (entriesDepth (entry :: others) + 1) < bestWidth := by omega
  have ends : ScansLine 0 []
      ((entriesTokens (entry :: others)).reverse ++ .blockMappingStart :: []) (0 : Nat) [-1]
      (.blockMappingStart :: entriesTokens (entry :: others) ++ [.blockEnd, .streamEnd]) := by
    have ended : ScansLine 0 []
        ((entriesTokens (entry :: others)).reverse ++ .blockMappingStart :: []) 0 [-1] _ :=
      ScansLine.streamEnd
    simpa using ended
  obtain ⟨-, found⟩ := scans_mapping (entry :: others) (by simp) sound fits (Nat.le_refl 0)
    (by decide) ends
  have whole := entriesText_false 0 entry others []
  rw [List.append_nil, List.replicate_zero, List.nil_append] at whole
  have written : documentText (entry :: others) = entriesText 0 false (entry :: others) := rfl
  rw [written, whole]
  exact found 0 0 _ (Nat.lt_succ_of_lt (Nat.lt_succ_self _))

end Outline

end PhoneAccounts.Yaml

import PhoneAccounts.Proofs.Text.Utf8
import PhoneAccounts.Proofs.Yaml.Layout.Outline

/-!
Contract: a written document holds only characters that a document may hold.

Owns: the characters of each kind of text, and the bytes of a document.

Does not own: what the characters mean.
-/

namespace PhoneAccounts.Yaml

open PhoneAccounts.Text

/-- A document may hold all of the characters. -/
def AreAllowed (chars : List Char) : Prop :=
  ∀ char ∈ chars, isAllowed char = true

instance (chars : List Char) : Decidable (AreAllowed chars) :=
  List.decidableBAll _ chars

namespace AreAllowed

theorem nil : AreAllowed [] := fun _ member => absurd member List.not_mem_nil

theorem cons
    {first : Char}
    {rest : List Char}
    (firstAllowed : isAllowed first = true)
    (restAllowed : AreAllowed rest) :
    AreAllowed (first :: rest) := by
  intro char member
  rcases List.mem_cons.mp member with rfl | member
  · exact firstAllowed
  · exact restAllowed char member

theorem append
    {first rest : List Char}
    (firstAllowed : AreAllowed first)
    (restAllowed : AreAllowed rest) :
    AreAllowed (first ++ rest) := by
  intro char member
  rcases List.mem_append.mp member with member | member
  · exact firstAllowed char member
  · exact restAllowed char member

theorem spaces (count : Nat) : AreAllowed (List.replicate count ' ') := by
  intro char member
  rw [List.eq_of_mem_replicate member]
  decide

theorem newLine (indent : Nat) : AreAllowed (Yaml.newLine indent) :=
  cons (by decide) (spaces indent)

end AreAllowed

/-! ## Characters that are written -/

theorem isAllowed_of_isWritable
    {char : Char}
    (writable : TextStyle.isWritable char = true) :
    isAllowed char = true := by
  unfold TextStyle.isWritable at writable
  simp only [Bool.or_eq_true, Bool.and_eq_true, decide_eq_true_eq, beq_iff_eq] at writable
  simp only [isAllowed, Bool.or_eq_true, Bool.and_eq_true, decide_eq_true_eq, beq_iff_eq]
  rcases writable with (rfl | ascii) | ⟨-, wide⟩
  · decide
  · omega
  · omega

theorem isAllowed_of_isDirect
    {char : Char}
    (direct : isDirect char = true) :
    isAllowed char = true := by
  unfold isDirect at direct
  simp only [Bool.or_eq_true, Bool.and_eq_true, decide_eq_true_eq] at direct
  simp only [isAllowed, Bool.or_eq_true, Bool.and_eq_true, decide_eq_true_eq, beq_iff_eq]
  omega

theorem areAllowed_hexText (width value : Nat) :
    AreAllowed (LetterCase.upper.hexText width value) := by
  have digits : ∀ digit < 16, isAllowed (LetterCase.upper.hexDigit digit) = true := by decide
  induction width generalizing value with
  | zero => exact AreAllowed.nil
  | succ width inductionHypothesis =>
      refine (inductionHypothesis (value / 16)).append (AreAllowed.cons ?_ AreAllowed.nil)
      rw [hexDigit_mod]
      exact digits _ (Nat.mod_lt value (by omega))

theorem areAllowed_escapeText (char : Char) : AreAllowed (escapeText char) := by
  have mark : isAllowed backslash = true := by decide
  unfold escapeText
  cases short : escapeLetter? char with
  | some letter =>
      have letterAllowed : isAllowed letter = true := by
        unfold escapeLetter? at short
        split at short
        all_goals cases short
        all_goals decide
      exact AreAllowed.cons mark (AreAllowed.cons letterAllowed AreAllowed.nil)
  | none =>
      simp only
      split
      · exact AreAllowed.cons mark (AreAllowed.cons (by decide) (areAllowed_hexText 2 _))
      · split
        · exact AreAllowed.cons mark (AreAllowed.cons (by decide) (areAllowed_hexText 4 _))
        · exact AreAllowed.cons mark (AreAllowed.cons (by decide) (areAllowed_hexText 8 _))

/-! ## Texts -/

theorem areAllowed_run
    {kind : RunKind}
    {run : List Char}
    {rest : List (RunKind × List Char)}
    (writable : AreWritable ((kind, run) :: rest)) :
    AreAllowed run :=
  fun char member => isAllowed_of_isWritable (writable.2.1 char member).2

theorem areAllowed_plainRuns
    {runs : List (RunKind × List Char)}
    (writable : AreWritable runs)
    (indent column : Nat) :
    AreAllowed (plainRuns indent column runs) := by
  induction runs generalizing column with
  | nil => exact AreAllowed.nil
  | cons first others inductionHypothesis =>
      obtain ⟨kind, run⟩ := first
      have runAllowed := areAllowed_run writable
      have later := inductionHypothesis writable.2.2.2
      cases kind with
      | spaces =>
          rw [plainRuns]
          split
          · exact (AreAllowed.newLine indent).append (later _)
          · exact runAllowed.append (later _)
      | breaks => exact runAllowed.append (later _)
      | word => exact runAllowed.append (later _)

theorem areAllowed_singleQuotedRuns
    {runs : List (RunKind × List Char)}
    (writable : AreWritable runs)
    (indent column : Nat)
    (isFirst : Bool) :
    AreAllowed (singleQuotedRuns indent column isFirst runs) := by
  induction runs generalizing column isFirst with
  | nil => exact AreAllowed.nil
  | cons first others inductionHypothesis =>
      obtain ⟨kind, run⟩ := first
      have runAllowed := areAllowed_run writable
      have later := inductionHypothesis writable.2.2.2
      cases kind with
      | spaces =>
          rw [singleQuotedRuns]
          split
          · exact (AreAllowed.newLine indent).append (later _ _)
          · exact runAllowed.append (later _ _)
      | breaks =>
          rw [singleQuotedRuns]
          refine AreAllowed.append (AreAllowed.append ?_ (AreAllowed.spaces indent)) (later _ _)
          unfold doubleFirstFeed
          split
          · exact AreAllowed.cons (by decide) runAllowed
          · exact runAllowed
      | word =>
          rw [singleQuotedRuns]
          refine AreAllowed.append ?_ (later _ _)
          intro char member
          obtain ⟨original, isMember, written⟩ := List.mem_flatMap.mp member
          split at written
          · have quote : char = apostrophe := by simpa using written
            rw [quote]
            decide
          · rw [List.mem_singleton.mp written]
            exact runAllowed original isMember

theorem areAllowed_brokenLine (indent : Nat) (next : Char) :
    AreAllowed (brokenLine indent next) := by
  unfold brokenLine
  refine AreAllowed.cons (by decide) ((AreAllowed.newLine indent).append ?_)
  split
  · exact AreAllowed.cons (by decide) AreAllowed.nil
  · exact AreAllowed.nil

theorem areAllowed_doubleQuotedRuns
    (indent column run : Nat)
    (isFirst : Bool)
    (chars : List Char) :
    AreAllowed (doubleQuotedRuns indent column run isFirst chars) := by
  induction chars generalizing column run isFirst with
  | nil => exact AreAllowed.nil
  | cons char others inductionHypothesis =>
      rw [doubleQuotedRuns]
      split
      · next direct =>
          have charAllowed := isAllowed_of_isDirect direct
          split
          · exact (areAllowed_brokenLine indent char).append
              (AreAllowed.cons charAllowed (inductionHypothesis _ _ _))
          · exact AreAllowed.cons charAllowed (inductionHypothesis _ _ _)
      · simp only
        split
        · exact ((areAllowed_escapeText char).append (areAllowed_brokenLine indent _)).append
            (inductionHypothesis _ _ _)
        · exact (areAllowed_escapeText char).append (inductionHypothesis _ _ _)

theorem areAllowed_scalarText (indent column : Nat) (chars : List Char) :
    AreAllowed (scalarText indent column chars) := by
  unfold scalarText
  cases style : TextStyle.of chars with
  | plain =>
      have allows := (allowsPlain_of_plain style).1
      unfold TextStyle.allowsPlain at allows
      simp only [Bool.and_eq_true] at allows
      exact areAllowed_plainRuns (areWritable_runsOf allows.1.1.1.1) _ _
  | singleQuoted =>
      have writable := areWritable_runsOf (allowsSingleQuotes_of_singleQuoted style)
      exact AreAllowed.cons (by decide) ((areAllowed_singleQuotedRuns writable _ _ _).append
        (AreAllowed.cons (by decide) AreAllowed.nil))
  | doubleQuoted =>
      exact AreAllowed.cons (by decide) ((areAllowed_doubleQuotedRuns _ _ _ _ _).append
        (AreAllowed.cons (by decide) AreAllowed.nil))

/-! ## Documents -/

namespace Outline

theorem areAllowed_integerText (value : Int) : AreAllowed (integerText value) :=
  forall_mem_integerText (by decide) value

theorem areAllowed_flagText (value : Bool) : AreAllowed (flagText value) := by
  cases value <;> decide

theorem areAllowed_key
    {key : String}
    (isKey : IsKey key) :
    AreAllowed key.toList := by
  have letters : ∀ char ∈ keyChars, isAllowed char = true := by decide
  exact fun char member => letters char (mem_keyChars (isKey.word.isKey char member))

/-- Something that follows a space and ends its line. -/
theorem areAllowed_line
    {body : List Char}
    (bodyAllowed : AreAllowed body) :
    AreAllowed (' ' :: body ++ ['\n']) :=
  AreAllowed.cons (by decide) (bodyAllowed.append (AreAllowed.newLine 0))

theorem areAllowed_indent (indent : Nat) (continues : Bool) :
    AreAllowed (if continues then [] else spaces indent) := by
  split
  · exact AreAllowed.nil
  · exact AreAllowed.spaces indent

mutual

theorem areAllowed_valueText
    (indent column : Nat)
    (outline : Outline)
    (sound : outline.IsSound) :
    AreAllowed (valueText indent column outline) := by
  cases outline with
  | text value => exact areAllowed_line (areAllowed_scalarText _ _ _)
  | integer value => exact areAllowed_line (areAllowed_integerText value)
  | flag value => exact areAllowed_line (areAllowed_flagText value)
  | sequence items =>
      cases items with
      | nil => exact areAllowed_line (show AreAllowed ['[', ']'] by decide)
      | cons item items =>
          exact AreAllowed.cons (by decide) (areAllowed_itemsText _ _ (item :: items) sound)
  | mapping entries =>
      cases entries with
      | nil => exact areAllowed_line (show AreAllowed ['\x7b', '\x7d'] by decide)
      | cons entry entries =>
          exact AreAllowed.cons (by decide)
            (areAllowed_entriesText _ _ (entry :: entries) sound.2)

theorem areAllowed_itemText
    (indent : Nat)
    (outline : Outline)
    (sound : outline.IsSound) :
    AreAllowed (itemText indent outline) := by
  cases outline with
  | text value => exact areAllowed_line (areAllowed_scalarText _ _ _)
  | integer value => exact areAllowed_line (areAllowed_integerText value)
  | flag value => exact areAllowed_line (areAllowed_flagText value)
  | sequence items =>
      cases items with
      | nil => exact areAllowed_line (show AreAllowed ['[', ']'] by decide)
      | cons item items =>
          exact AreAllowed.cons (by decide) (areAllowed_itemsText _ _ (item :: items) sound)
  | mapping entries =>
      cases entries with
      | nil => exact areAllowed_line (show AreAllowed ['\x7b', '\x7d'] by decide)
      | cons entry entries =>
          exact AreAllowed.cons (by decide)
            (areAllowed_entriesText _ _ (entry :: entries) sound.2)

theorem areAllowed_itemsText
    (indent : Nat)
    (continues : Bool)
    (items : List Outline)
    (sound : AreSound items) :
    AreAllowed (itemsText indent continues items) := by
  cases items with
  | nil => exact AreAllowed.nil
  | cons item items =>
      rw [itemsText]
      exact ((areAllowed_indent indent continues).append
        (AreAllowed.cons (by decide) (areAllowed_itemText indent item sound.1))).append
          (areAllowed_itemsText indent false items sound.2)

theorem areAllowed_entriesText
    (indent : Nat)
    (continues : Bool)
    (entries : List (String × Outline))
    (sound : AreSoundEntries entries) :
    AreAllowed (entriesText indent continues entries) := by
  cases entries with
  | nil => exact AreAllowed.nil
  | cons entry entries =>
      obtain ⟨key, value⟩ := entry
      obtain ⟨isKey, valueSound, entriesSound⟩ := sound
      have value := areAllowed_valueText indent (indent + key.length + 1) value valueSound
      rw [entriesText]
      exact (((areAllowed_indent indent continues).append (areAllowed_key isKey)).append
        (AreAllowed.cons (by decide) value)).append
          (areAllowed_entriesText indent false entries entriesSound)

end

/-- A document begins with the first letter of its first key. -/
theorem documentText_eq_cons
    {entries : List (String × Outline)}
    (nonempty : entries ≠ [])
    (sound : AreSoundEntries entries) :
    ∃ first rest, isKeyChar first = true ∧ documentText entries = first :: rest := by
  obtain ⟨⟨key, value⟩, others, rfl⟩ := List.exists_cons_of_ne_nil nonempty
  obtain ⟨first, more, shown⟩ := List.exists_cons_of_ne_nil sound.1.word.nonempty
  have isKey := sound.1.word.isKey first (shown ▸ List.mem_cons_self)
  have written : documentText ((key, value) :: others) =
      entriesText 0 false ((key, value) :: others) := rfl
  rw [written, entriesText, shown]
  exact ⟨first, _, isKey, rfl⟩

end Outline

/-- A text that begins with a letter of a key is stored as UTF-8. -/
theorem decodeBytes?_encode
    {first : Char}
    (isKey : isKeyChar first = true)
    (rest : List Char) :
    decodeBytes? (Utf8.encode (first :: rest)) = some (first :: rest) := by
  have letters : ∀ char ∈ keyChars,
      char.toNat < 0x80 ∧ UInt8.ofNat char.toNat ≠ 0xFF ∧ UInt8.ofNat char.toNat ≠ 0xFE := by
    decide
  obtain ⟨small, notLow, notHigh⟩ := letters first (mem_keyChars isKey)
  have whole := Utf8.decode?_encode (first :: rest)
  rw [Utf8.encode_cons_of_lt small] at whole ⊢
  unfold decodeBytes?
  split
  · exact absurd (List.cons.inj ‹_›).1 notLow
  · exact absurd (List.cons.inj ‹_›).1 notHigh
  · exact whole

/-- The characters of a document are read from its bytes. -/
theorem documentChars?_documentText
    {entries : List (String × Outline)}
    (nonempty : entries ≠ [])
    (sound : Outline.AreSoundEntries entries) :
    documentChars? (Utf8.encode (Outline.documentText entries)) =
      .ok (Outline.documentText entries) := by
  have allowed : AreAllowed (Outline.documentText entries) := by
    obtain ⟨entry, others, rfl⟩ := List.exists_cons_of_ne_nil nonempty
    exact Outline.areAllowed_entriesText 0 false (entry :: others) sound
  obtain ⟨first, rest, isKey, shown⟩ := Outline.documentText_eq_cons nonempty sound
  rw [shown] at allowed ⊢
  rw [documentChars?, decodeBytes?_encode isKey]
  exact if_pos (List.all_eq_true.mpr allowed)

end PhoneAccounts.Yaml

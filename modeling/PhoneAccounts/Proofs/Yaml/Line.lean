import PhoneAccounts.Proofs.Text.Alphabet
import PhoneAccounts.Proofs.Yaml.Cursor

/-!
Contract: the fronts of the lines of a document.

A line that is written begins with spaces, and then with a dash or the first letter of a key.

Owns: `isKeyChar`, `startsToken`, `BeginsToken`, and what such a front is not.

Does not own: what the lines say.
-/

namespace PhoneAccounts.Yaml

/-- A character of a key. -/
def isKeyChar (char : Char) : Bool :=
  ('a' ≤ char && char ≤ 'z') || char == '_'

/-- The character is nothing that stands between tokens: a space, a line break, the mark of a
comment or a byte-order mark. -/
def startsToken (char : Char) : Bool :=
  !(char == ' ' || isBreak char || char == '#' || char == byteOrderMark)

theorem startsToken_iff (char : Char) :
    startsToken char = true ↔
      (char == ' ') = false ∧ isBreak char = false ∧ (char == '#') = false ∧
        (char == byteOrderMark) = false := by
  simp only [startsToken, Bool.not_eq_true', Bool.or_eq_false_iff, and_assoc]

/-- A dash and a space, or the first letter of a key, or the end of the text. -/
def BeginsToken (tail : List Char) : Prop :=
  tail = [] ∨ (∃ rest, tail = '-' :: ' ' :: rest) ∨
    ∃ first rest, tail = first :: rest ∧ isKeyChar first = true

def keyChars : List Char :=
  ['a', 'b', 'c', 'd', 'e', 'f', 'g', 'h', 'i', 'j', 'k', 'l', 'm', 'n', 'o', 'p', 'q', 'r', 's',
    't', 'u', 'v', 'w', 'x', 'y', 'z', '_']

theorem mem_keyChars
    {char : Char}
    (isKey : isKeyChar char = true) :
    char ∈ keyChars := by
  unfold isKeyChar at isKey
  rw [Bool.or_eq_true, Bool.and_eq_true, decide_eq_true_eq, decide_eq_true_eq, beq_iff_eq] at isKey
  rcases isKey with ⟨least, most⟩ | rfl
  · have least : 0x61 ≤ char.toNat := least
    have most : char.toNat ≤ 0x7A := most
    have listed : ∀ code < 26, Char.ofNat (0x61 + code) ∈ keyChars := by decide
    exact Text.mem_of_range listed least (by omega)
  · decide

theorem BeginsToken.mem
    {tail : List Char}
    (begins : BeginsToken tail) :
    tail.headD endMark ∈ endMark :: '-' :: keyChars := by
  rcases begins with rfl | ⟨rest, rfl⟩ | ⟨first, rest, rfl, isKey⟩
  · exact List.mem_cons_self
  · exact List.mem_cons_of_mem _ List.mem_cons_self
  · exact List.mem_cons_of_mem _ (List.mem_cons_of_mem _ (mem_keyChars isKey))

theorem BeginsToken.startsToken
    {tail : List Char}
    (begins : BeginsToken tail) :
    startsToken (tail.headD endMark) = true := by
  have firsts : ∀ char ∈ endMark :: '-' :: keyChars, Yaml.startsToken char = true := by
    decide
  exact firsts _ begins.mem

/-! ## Marks of documents -/

theorem isAtDocumentMark_of_spaces
    {depth : Nat}
    (positive : 0 < depth)
    (rest : List Char)
    (index line column : Nat) :
    Cursor.isAtDocumentMark ⟨List.replicate depth ' ' ++ rest, index, line, column⟩ = false := by
  obtain ⟨depth, rfl⟩ := Nat.exists_eq_succ_of_ne_zero (Nat.ne_of_gt positive)
  rfl

theorem isAtDocumentMark_of_ne
    {cursor : Cursor}
    (noDash : cursor.next ≠ '-')
    (noDot : cursor.next ≠ '.') :
    cursor.isAtDocumentMark = false := by
  obtain ⟨chars, index, line, column⟩ := cursor
  unfold Cursor.next at noDash noDot
  cases chars with
  | nil => rfl
  | cons first rest =>
      rw [List.headD_cons] at noDash noDot
      simp [Cursor.isAtDocumentMark, Cursor.isDocumentMark, Cursor.continuesWith,
        List.isPrefixOf, noDash.symm, noDot.symm]

/-- No line that is written is a mark of a document. -/
theorem isAtDocumentMark_of_line
    {tail : List Char}
    (begins : BeginsToken tail)
    (depth index line column : Nat) :
    Cursor.isAtDocumentMark ⟨List.replicate depth ' ' ++ tail, index, line, column⟩ = false := by
  cases depth with
  | succ depth => exact isAtDocumentMark_of_spaces (Nat.succ_pos depth) tail _ _ _
  | zero =>
      rcases begins with rfl | ⟨rest, rfl⟩ | ⟨first, rest, rfl, isKey⟩
      · rfl
      · rfl
      · have letters : ∀ char ∈ keyChars, char ≠ '-' ∧ char ≠ '.' := by decide
        have notMark := letters first (mem_keyChars isKey)
        exact isAtDocumentMark_of_ne notMark.1 notMark.2

end PhoneAccounts.Yaml

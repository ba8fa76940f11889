import Mathlib.Data.List.TakeWhile
import PhoneAccounts.Proofs.Text.Alphabet
import PhoneAccounts.Proofs.Text.Numeral
import PhoneAccounts.Yaml.Scalar

/-!
Contract: a written integer looks like one to the markup, and means itself.

Owns: the tag of a written integer, and its value.

Does not own: the place of a number in a document.
-/

namespace PhoneAccounts.Yaml

open PhoneAccounts.Text

/-! ## Digits -/

/-- What holds of the ten digits holds of every character of a written number. -/
theorem forall_mem_naturalText
    {holds : Char → Prop}
    (digits : ∀ char ∈ decimalDigits, holds char)
    (value : Nat) :
    ∀ char ∈ naturalText value, holds char :=
  fun char member => digits char (mem_decimalDigits (isDigit_of_mem_naturalText member))

/-- What holds of the ten digits and the sign holds of every character of a written integer. -/
theorem forall_mem_integerText
    {holds : Char → Prop}
    (digits : ∀ char ∈ '-' :: decimalDigits, holds char)
    (value : Int) :
    ∀ char ∈ integerText value, holds char := by
  have natural := forall_mem_naturalText fun char member =>
    digits char (List.mem_cons_of_mem '-' member)
  intro char member
  cases value with
  | ofNat value => exact natural value char member
  | negSucc value =>
      rcases List.mem_cons.mp member with rfl | member
      · exact digits '-' List.mem_cons_self
      · exact natural (value + 1) char member

theorem integerText_ne_nil (value : Int) : integerText value ≠ [] := by
  cases value with
  | ofNat value => exact naturalText_ne_nil value
  | negSucc value => exact List.cons_ne_nil _ _

/-- A written number is a zero, or begins with another digit. -/
theorem naturalText_cases (value : Nat) :
    (value = 0 ∧ naturalText value = ['0']) ∨
      ∃ first rest, naturalText value = first :: rest ∧ first ∈ decimalDigits ∧ first ≠ '0' := by
  by_cases zero : value = 0
  · subst zero
    exact .inl ⟨rfl, naturalText_zero⟩
  · right
    have notZero := head?_naturalText_ne_zero (Nat.pos_of_ne_zero zero)
    cases shown : naturalText value with
    | nil => exact absurd shown (naturalText_ne_nil value)
    | cons first rest =>
        rw [shown, List.head?_cons, ne_eq, Option.some.injEq] at notZero
        have member : first ∈ naturalText value := shown ▸ List.mem_cons_self
        exact ⟨first, rest, rfl, mem_decimalDigits (isDigit_of_mem_naturalText member), notZero⟩

/-! ## The value -/

theorem trimBlank_naturalText (value : Nat) :
    trimBlank (naturalText value) = naturalText value := by
  have notBlank : ∀ char ∈ naturalText value, isBlank char = false :=
    forall_mem_naturalText (by decide) value
  exact trimBlank_of_not_blank
    (fun char first => notBlank char (List.mem_of_mem_head? first))
    (fun char last => notBlank char (List.mem_of_getLast? last))

theorem readInteger?_naturalText
    {value : Nat}
    (short : (naturalText value).length ≤ longestDecimalNumeral) :
    readInteger? (naturalText value) = some (value : Int) := by
  have read := readNatural?_naturalText short
  have noSign : ∀ char ∈ naturalText value, char ≠ '-' ∧ char ≠ '+' :=
    forall_mem_naturalText (by decide) value
  unfold readInteger? Radix.readInteger?
  rw [trimBlank_naturalText]
  split
  · next rest shown => exact absurd rfl (noSign '-' (shown ▸ List.mem_cons_self)).1
  · next rest shown => exact absurd rfl (noSign '+' (shown ▸ List.mem_cons_self)).2
  · rw [read]
    rfl

theorem readMagnitude_naturalText
    {value : Nat}
    (short : (naturalText value).length ≤ longestDecimalNumeral) :
    readMagnitude (naturalText value) = .ok value := by
  have read := readInteger?_naturalText short
  have notColon : ∀ char ∈ naturalText value, char ≠ ':' :=
    forall_mem_naturalText (by decide) value
  have noColon : (naturalText value).contains ':' = false := by
    rw [List.contains_eq_mem, decide_eq_false_iff_not]
    exact fun member => notColon ':' member rfl
  rcases naturalText_cases value with ⟨rfl, zero⟩ | ⟨first, rest, shown, -, notZero⟩
  · rw [zero]
    rfl
  · rw [shown] at noColon read ⊢
    unfold readMagnitude
    split
    · exact absurd ‹_ = []› (by simp)
    · exact absurd (List.cons.inj ‹_ = ['0']›).1 notZero
    · exact absurd (List.cons.inj ‹first :: rest = _›).1 notZero
    · exact absurd (List.cons.inj ‹first :: rest = _›).1 notZero
    · exact absurd (List.cons.inj ‹first :: rest = _›).1 notZero
    · rw [noColon, if_neg Bool.false_ne_true, read]
      rfl

/-- A written integer that is not too long means itself. -/
theorem integerOf_integerText
    {value : Int}
    (short : (naturalText value.natAbs).length ≤ longestDecimalNumeral) :
    integerOf (integerText value) = .ok value := by
  have noGap : (integerText value).filter (· ≠ '_') = integerText value := by
    rw [List.filter_eq_self]
    exact forall_mem_integerText (by decide) value
  have magnitude := readMagnitude_naturalText short
  unfold integerOf
  rw [noGap]
  cases value with
  | ofNat value =>
      have noSign : ∀ char ∈ naturalText value, char ≠ '-' ∧ char ≠ '+' :=
        forall_mem_naturalText (by decide) value
      have unsigned : splitSign? (naturalText value) = .ok (false, naturalText value) := by
        unfold splitSign?
        split
        · next shown => exact absurd shown (naturalText_ne_nil value)
        · next rest shown => exact absurd rfl (noSign '-' (shown ▸ List.mem_cons_self)).1
        · next rest shown => exact absurd rfl (noSign '+' (shown ▸ List.mem_cons_self)).2
        · rfl
      have magnitude : readMagnitude (naturalText value) = .ok value := magnitude
      show (splitSign? (naturalText value) >>= _) = _
      rw [unsigned]
      show (readMagnitude (naturalText value) >>= _) = _
      rw [magnitude]
      rfl
  | negSucc value =>
      have magnitude : readMagnitude (naturalText (value + 1)) = .ok ((value + 1 : Nat) : Int) :=
        magnitude
      show (readMagnitude (naturalText (value + 1)) >>= _) = _
      rw [magnitude]
      rfl

/-! ## The tag -/

theorem isNaturalShape_naturalText (value : Nat) :
    Tag.isNaturalShape (naturalText value) = true := by
  have digits : ∀ char ∈ naturalText value, Tag.isDigitOrGap char = true :=
    forall_mem_naturalText (by decide) value
  rcases naturalText_cases value with ⟨-, zero⟩ | ⟨first, rest, shown, digit, notZero⟩
  · rw [zero]
    rfl
  · have firstDigit : ∀ char ∈ decimalDigits, Tag.isDigit char = true := by decide
    have restDigits : rest.all Tag.isDigitOrGap = true := by
      rw [List.all_eq_true]
      intro char member
      exact digits char (shown ▸ List.mem_cons_of_mem first member)
    rw [shown]
    unfold Tag.isNaturalShape
    split
    · rfl
    · exact absurd (List.cons.inj ‹first :: rest = _›).1 notZero
    · exact absurd (List.cons.inj ‹first :: rest = _›).1 notZero
    · exact absurd (List.cons.inj ‹first :: rest = _›).1 notZero
    · next head tail _ _ _ _ same =>
        obtain ⟨rfl, rfl⟩ := List.cons.inj same
        rw [firstDigit _ digit, restDigits]
        rfl
    · exact absurd ‹first :: rest = []› (by simp)

/-- A run of digits is no number with a point. -/
theorem isPointShape_naturalText (value : Nat) :
    Tag.isPointShape (naturalText value) = false ∧
      Tag.isSixtiesPointShape (naturalText value) = false := by
  have digits : ∀ char ∈ naturalText value, Tag.isDigitOrGap char = true :=
    forall_mem_naturalText (by decide) value
  cases shown : naturalText value with
  | nil => exact ⟨rfl, rfl⟩
  | cons first rest =>
      rw [shown] at digits
      have allDropped : (first :: rest).dropWhile Tag.isDigitOrGap = [] :=
        List.dropWhile_eq_nil_iff.mpr digits
      have restDropped : rest.dropWhile Tag.isDigitOrGap = [] :=
        List.dropWhile_eq_nil_iff.mpr fun char member =>
          digits char (List.mem_cons_of_mem first member)
      constructor
      · simp only [Tag.isPointShape, allDropped, Bool.and_false]
      · simp only [Tag.isSixtiesPointShape, Tag.sixtiesAfter?, restDropped, Tag.sixties?,
          Bool.and_false]

theorem dropSign_integerText (value : Int) :
    Tag.dropSign (integerText value) = naturalText value.natAbs := by
  cases value with
  | negSucc value => rfl
  | ofNat value =>
      have noSign : ∀ char ∈ naturalText value, char ≠ '-' ∧ char ≠ '+' :=
        forall_mem_naturalText (by decide) value
      show Tag.dropSign (naturalText value) = naturalText value
      unfold Tag.dropSign
      split
      · next rest shown => exact absurd rfl (noSign '-' (shown ▸ List.mem_cons_self)).1
      · next rest shown => exact absurd rfl (noSign '+' (shown ▸ List.mem_cons_self)).2
      · rfl

theorem isRealShape_integerText (value : Int) : Tag.isRealShape (integerText value) = false := by
  have noPoint : ∀ char ∈ naturalText value.natAbs, char ≠ '.' :=
    forall_mem_naturalText (by decide) value.natAbs
  have nowherePoint : ∀ char ∈ integerText value, char ≠ '.' :=
    forall_mem_integerText (by decide) value
  obtain ⟨noPointShape, noSixties⟩ := isPointShape_naturalText value.natAbs
  unfold Tag.isRealShape
  simp only [dropSign_integerText, noPointShape, noSixties, Bool.false_or]
  split
  · next rest shown => exact absurd rfl (noPoint '.' (shown ▸ List.mem_cons_self))
  · split
    · next first rest shown => exact absurd rfl (nowherePoint '.' (shown ▸ List.mem_cons_self))
    · rfl

/-- A written integer is taken for an integer. -/
theorem ofPlain_integerText (value : Int) : Tag.ofPlain (integerText value) = .integer := by
  have noFeed : ∀ char ∈ integerText value, char ≠ '\n' :=
    forall_mem_integerText (by decide) value
  have noFinalFeed : (integerText value).getLast? ≠ some '\n' :=
    fun last => noFeed '\n' (List.mem_of_getLast? last) rfl
  have noFlag : (Tag.flagWords.any fun word => word.1 = integerText value) = false := by
    rw [List.any_eq_false]
    intro word isFlag
    rw [decide_eq_true_eq]
    intro same
    have outside : ∀ word ∈ Tag.flagWords, ¬ ∀ char ∈ word.1, char ∈ '-' :: decimalDigits := by
      decide
    have inside : ∀ char ∈ integerText value, char ∈ '-' :: decimalDigits :=
      forall_mem_integerText (fun _ member => member) value
    exact outside word isFlag (same ▸ inside)
  have integerShape : Tag.isIntegerShape (integerText value) = true := by
    rw [Tag.isIntegerShape, dropSign_integerText]
    exact isNaturalShape_naturalText value.natAbs
  have text : (if integerText value = ['\n'] then integerText value
      else Tag.dropFinalFeed (integerText value)) = integerText value := by
    rw [Tag.dropFinalFeed, if_neg noFinalFeed, ite_self]
  unfold Tag.ofPlain
  simp only [text, noFlag, isRealShape_integerText value, integerShape]
  rfl

end PhoneAccounts.Yaml

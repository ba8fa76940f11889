import Mathlib.Data.Nat.Digits.Defs
import PhoneAccounts.Text.Numeral

/-!
Contract: a written number is read back, if it is not too long, and a number that was read is none
too long to be written.

Owns: the look of written numbers, reading one back, and how large a number is that was read.

Does not own: numerals of other forms.
-/

namespace PhoneAccounts.Text

/-! ## The look of a written number -/

theorem isDigit_of_mem_naturalText
    {value : Nat}
    {char : Char}
    (member : char ∈ naturalText value) :
    '0' ≤ char ∧ char ≤ '9' := by
  have digit : char.isDigit = true :=
    Nat.isDigit_of_mem_toDigits (by omega) (by omega) member
  simp only [Char.isDigit, Bool.and_eq_true, decide_eq_true_eq] at digit
  exact digit

theorem naturalText_ne_nil (value : Nat) : naturalText value ≠ [] :=
  Nat.toDigits_ne_nil

theorem naturalText_zero : naturalText 0 = ['0'] := rfl

private theorem digitChar_ne_zero_all :
    ∀ digit < 10, 0 < digit → digit.digitChar ≠ '0' := by
  decide

/-- A written number that is not zero does not begin with a zero. -/
theorem head?_naturalText_ne_zero
    {value : Nat}
    (positive : 0 < value) :
    (naturalText value).head? ≠ some '0' := by
  induction value using Nat.strongRecOn with
  | ind value inductionHypothesis =>
      unfold naturalText at inductionHypothesis ⊢
      by_cases small : value < 10
      · rw [Nat.toDigits_of_lt_base small, List.head?_cons, ne_eq, Option.some.injEq]
        exact digitChar_ne_zero_all value small positive
      · rw [Nat.toDigits_of_base_le (by omega) (by omega), List.head?_append]
        have front := inductionHypothesis (value / 10) (by omega) (by omega)
        cases first : (Nat.toDigits 10 (value / 10)).head? with
        | none => exact absurd (List.head?_eq_none_iff.mp first) Nat.toDigits_ne_nil
        | some char =>
            rw [first] at front
            exact front

/-! ## Reading it -/

theorem decimalDigit?_of_digit
    {char : Char}
    (digit : '0' ≤ char ∧ char ≤ '9') :
    decimalDigit? char = some (char.toNat - 0x30) := by
  obtain ⟨least, most⟩ := digit
  have least : 0x30 ≤ char.toNat := least
  have most : char.toNat ≤ 0x39 := most
  have first : (decide (0x30 ≤ char.toNat) && decide (char.toNat < 0x30 + 10)) = true := by
    simp only [Bool.and_eq_true, decide_eq_true_eq]
    omega
  have found : decimalZeros.find?
      (fun start => decide (start ≤ char.toNat) && decide (char.toNat < start + 10)) =
        some 0x30 := by
    unfold decimalZeros
    exact List.find?_cons_of_pos first
  rw [decimalDigit?, found, Option.map_some]

theorem digit?_decimal
    {char : Char}
    (digit : '0' ≤ char ∧ char ≤ '9') :
    Radix.decimal.digit? char = some (char.toNat - 0x30) := by
  have most : char.toNat ≤ 0x39 := digit.2
  have small : decide (char.toNat - 0x30 < 10) = true := by
    rw [decide_eq_true_eq]
    omega
  rw [Radix.digit?, decimalDigit?_of_digit digit]
  exact if_pos small

theorem digits?_decimal
    {chars : List Char}
    (digits : ∀ char ∈ chars, '0' ≤ char ∧ char ≤ '9') :
    Radix.decimal.digits? chars = some (chars.map fun char => char.toNat - 0x30) := by
  induction chars with
  | nil => rfl
  | cons first rest inductionHypothesis =>
      have firstDigit := digits first List.mem_cons_self
      have noGap : first ≠ '_' := by
        intro same
        exact absurd (same ▸ firstDigit.2) (by decide)
      have restRead := inductionHypothesis fun char member =>
        digits char (List.mem_cons_of_mem first member)
      rw [Radix.digits?.eq_3 _ _ _ (fun _ _ same _ => noGap same), digit?_decimal firstDigit,
        restRead]
      rfl

theorem ofDigits_naturalText (value : Nat) :
    Radix.decimal.ofDigits ((naturalText value).map fun char => char.toNat - 0x30) = value := by
  have whole : Nat.ofDigitChars 10 (Nat.toDigits 10 value) 0 = value :=
    Nat.ofDigitChars_ten_toDigits
  rw [Radix.ofDigits, List.foldl_map]
  unfold Nat.ofDigitChars at whole
  simp only [Nat.mul_comm 10] at whole
  exact whole

/-- A written number without a sign is read as that number. -/
theorem readNatural?_naturalText
    {value : Nat}
    (short : (naturalText value).length ≤ longestDecimalNumeral) :
    Radix.decimal.readNatural? (naturalText value) = some value := by
  have digits := fun char (member : char ∈ naturalText value) => isDigit_of_mem_naturalText member
  have read := digits?_decimal digits
  have unmarked : Radix.decimal.dropMarker (naturalText value) = naturalText value := by
    unfold Radix.dropMarker
    split
    · exact (if_neg (by simp [Radix.markers])).trans ‹_ = _›.symm
    · rfl
  cases shown : naturalText value with
  | nil => exact absurd shown (naturalText_ne_nil value)
  | cons first rest =>
      have noGap : first ≠ '_' := by
        intro same
        have member : first ∈ naturalText value := shown ▸ List.mem_cons_self
        exact absurd (same ▸ (digits first member).2) (by decide)
      have whole := ofDigits_naturalText value
      rw [shown] at read unmarked short whole
      have fits : ¬ longestDecimalNumeral <
          ((first :: rest).map fun char => char.toNat - 0x30).length := by
        rw [List.length_map]
        omega
      unfold Radix.readNatural?
      rw [unmarked]
      split
      · exact absurd ‹first :: rest = []› (by simp)
      · exact absurd (List.cons.inj ‹first :: rest = '_' :: _›).1 noGap
      · rw [read]
        simp only [Option.bind_eq_bind, Option.bind_some]
        rw [if_neg fun long => fits long.2, whole]

/-! ## Numbers that were read -/

variable {radix : Radix}

theorem Radix.digit?_lt
    {char : Char}
    {digit : Nat}
    (read : radix.digit? char = some digit) :
    digit < radix.base := by
  have small := (Option.filter_eq_some_iff.mp read).2
  simpa using small

theorem Radix.digits?_lt
    {chars : List Char}
    {digits : List Nat}
    (read : radix.digits? chars = some digits) :
    ∀ digit ∈ digits, digit < radix.base := by
  induction chars using Radix.digits?.induct generalizing digits with
  | case1 =>
      obtain rfl := Option.some.inj read
      simp
  | case2 char rest inductionHypothesis =>
      rw [Radix.digits?] at read
      obtain ⟨first, firstRead, read⟩ := Option.bind_eq_some_iff.mp read
      obtain ⟨others, othersRead, same⟩ := Option.bind_eq_some_iff.mp read
      obtain rfl := Option.some.inj same
      exact List.forall_mem_cons.mpr
        ⟨Radix.digit?_lt firstRead, inductionHypothesis othersRead⟩
  | case3 char rest noGap inductionHypothesis =>
      rw [Radix.digits?.eq_3 _ _ _ noGap] at read
      obtain ⟨first, firstRead, read⟩ := Option.bind_eq_some_iff.mp read
      obtain ⟨others, othersRead, same⟩ := Option.bind_eq_some_iff.mp read
      obtain rfl := Option.some.inj same
      exact List.forall_mem_cons.mpr
        ⟨Radix.digit?_lt firstRead, inductionHypothesis othersRead⟩

/-- Digits write a number below the next power of the base. -/
theorem Radix.ofDigits_lt
    {digits : List Nat}
    (small : ∀ digit ∈ digits, digit < radix.base) :
    radix.ofDigits digits < radix.base ^ digits.length := by
  have fold (total : Nat) :
      digits.foldl (fun total digit => total * radix.base + digit) total <
        (total + 1) * radix.base ^ digits.length := by
    induction digits generalizing total with
    | nil => simp
    | cons digit rest inductionHypothesis =>
        obtain ⟨first, others⟩ := List.forall_mem_cons.mp small
        have step : total * radix.base + digit + 1 ≤ (total + 1) * radix.base := by
          rw [Nat.add_mul]
          omega
        calc
          rest.foldl (fun total digit => total * radix.base + digit)
                (total * radix.base + digit) <
              (total * radix.base + digit + 1) * radix.base ^ rest.length :=
            inductionHypothesis others _
          _ ≤ (total + 1) * radix.base * radix.base ^ rest.length :=
            Nat.mul_le_mul_right _ step
          _ = (total + 1) * radix.base ^ (digit :: rest).length := by
            rw [List.length_cons, Nat.pow_succ', Nat.mul_assoc]
  simpa [ofDigits] using fold 0

theorem naturalText_le_of_readNatural?
    {chars : List Char}
    {value : Nat}
    (read : Radix.decimal.readNatural? chars = some value) :
    (naturalText value).length ≤ longestDecimalNumeral := by
  unfold Radix.readNatural? at read
  split at read
  · cases read
  · cases read
  · obtain ⟨digits, digitsRead, read⟩ := Option.bind_eq_some_iff.mp read
    by_cases long : longestDecimalNumeral < digits.length
    · rw [if_pos ⟨rfl, long⟩] at read
      cases read
    · rw [if_neg fun tooLong => long tooLong.2] at read
      obtain rfl := Option.some.inj read
      have below := Radix.ofDigits_lt (Radix.digits?_lt digitsRead)
      cases length : digits.length with
      | zero =>
          rw [length, Nat.pow_zero, Nat.lt_one_iff] at below
          rw [below]
          decide
      | succ count =>
          rw [length] at below long
          exact (Nat.toDigits_length 10 _ _ (Nat.succ_pos count) below).trans
            (Nat.le_of_not_lt long)

/-- An integer that was read from a text can be written. -/
theorem isWritable_of_readInteger?
    {chars : List Char}
    {value : Int}
    (read : readInteger? chars = some value) :
    isWritable value = true := by
  have ofNatural {rest : List Char} {natural : Nat}
      (read : Radix.decimal.readNatural? rest = some natural)
      (same : value.natAbs = natural) :
      isWritable value = true := by
    rw [isWritable, decide_eq_true_iff, same]
    exact naturalText_le_of_readNatural? read
  unfold readInteger? Radix.readInteger? at read
  split at read
  · obtain ⟨integer, integerRead, rfl⟩ := Option.map_eq_some_iff.mp read
    obtain ⟨natural, naturalRead, same⟩ := Option.bind_eq_some_iff.mp integerRead
    obtain rfl := Option.some.inj same
    exact ofNatural naturalRead (Int.natAbs_neg _)
  · obtain ⟨natural, naturalRead, rfl⟩ := Option.map_eq_some_iff.mp read
    exact ofNatural naturalRead rfl
  · obtain ⟨natural, naturalRead, rfl⟩ := Option.map_eq_some_iff.mp read
    exact ofNatural naturalRead rfl

end PhoneAccounts.Text

import Mathlib.Data.Int.Bitwise
import PhoneAccounts.Mask

/-!
Contract: covering a mask is having all of its bits.

A negative mask asks for almost every bit, so only a negative integer can cover it; whether it
does is again a matter of the bits.

Owns: `covers` bit by bit, and covering a mask that is made of two.

Does not own: what the bits of an account stand for (see `PhoneAccounts.Capability`).
-/

namespace PhoneAccounts.Mask

theorem bit_eq_testBit (index : Nat) (value : Int) : bit index value = value.testBit index := by
  cases value <;> rfl

/-- Of two sets of bits the first holds the second if meeting it leaves the second as it is. -/
theorem land_eq_right_iff (value mask : Nat) :
    value &&& mask = mask ↔ ∀ index, mask.testBit index = true → value.testBit index = true := by
  constructor
  · intro same index asked
    rw [← same, Nat.testBit_and, Bool.and_eq_true] at asked
    exact asked.1
  · intro holds
    apply Nat.eq_of_testBit_eq
    intro index
    rw [Nat.testBit_and, Bool.and_eq_right_iff_imp]
    exact holds index

/-- Two sets of bits have nothing in common if meeting leaves nothing. -/
theorem land_eq_zero_iff (value mask : Nat) :
    mask &&& value = 0 ↔ ∀ index, mask.testBit index = true → value.testBit index = false := by
  constructor
  · intro apart index asked
    have met := Nat.testBit_and mask value index
    rw [apart, Nat.zero_testBit, asked, Bool.true_and] at met
    exact met.symm
  · intro apart
    apply Nat.eq_of_testBit_eq
    intro index
    rw [Nat.testBit_and, Nat.zero_testBit, Bool.and_eq_false_imp]
    exact apart index

/-- Beyond the bits of two natural numbers there is one that neither has. -/
theorem exists_bit_of_neither (first second : Nat) :
    ∃ index, first.testBit index = false ∧ second.testBit index = false := by
  refine ⟨first + second, ?_, ?_⟩
  · exact Nat.testBit_eq_false_of_lt
      (lt_of_le_of_lt (Nat.le_add_right first second) Nat.lt_two_pow_self)
  · exact Nat.testBit_eq_false_of_lt
      (lt_of_le_of_lt (Nat.le_add_left second first) Nat.lt_two_pow_self)

/-- An integer covers a mask just if it has every bit of the mask. -/
theorem covers_iff (value mask : Int) :
    covers value mask = true ↔ ∀ index, bit index mask = true → bit index value = true := by
  cases value with
  | ofNat value =>
      cases mask with
      | ofNat mask =>
          rw [covers, beq_iff_eq]
          exact land_eq_right_iff value mask
      | negSucc excluded =>
          obtain ⟨index, noneExcluded, absent⟩ := exists_bit_of_neither excluded value
          refine ⟨fun covered => absurd covered Bool.false_ne_true, fun holds => ?_⟩
          have present := holds index (by rw [bit, noneExcluded, Bool.not_false])
          exact absurd (absent.symm.trans present) Bool.false_ne_true
  | negSucc absent =>
      cases mask with
      | ofNat mask =>
          rw [covers, beq_iff_eq, land_eq_zero_iff]
          simp only [bit, Bool.not_eq_true']
      | negSucc excluded =>
          rw [covers, beq_iff_eq, Nat.land_comm, land_eq_right_iff]
          simp only [bit, Bool.not_eq_true']
          refine forall_congr' fun index => ?_
          cases absent.testBit index <;> cases excluded.testBit index <;> simp

@[simp] theorem covers_zero (value : Int) : covers value 0 = true :=
  (covers_iff value 0).mpr fun index asked =>
    absurd ((Nat.zero_testBit index).symm.trans asked) Bool.false_ne_true

/-- Covering the bits of two masks together is covering both. -/
theorem covers_lor (value left right : Int) :
    covers value (left.lor right) = (covers value left && covers value right) := by
  rw [Bool.eq_iff_iff, Bool.and_eq_true]
  simp only [covers_iff, bit_eq_testBit, Int.testBit_lor, Bool.or_eq_true]
  exact ⟨fun both => ⟨fun index asked => both index (.inl asked),
    fun index asked => both index (.inr asked)⟩,
    fun each index asked => asked.elim (each.1 index) (each.2 index)⟩

end PhoneAccounts.Mask

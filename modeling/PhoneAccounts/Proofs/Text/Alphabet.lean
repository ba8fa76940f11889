/-!
Contract: facts about a few characters are decided one by one.

Owns: deciding what holds of every character of a list, lists that cover a range of code points,
and the ten digits.

Does not own: the texts that are written with the characters.
-/

namespace PhoneAccounts.Text

-- Where the type of characters is known to be finite, this keeps `decide` from searching it all.
instance (priority := high) decidableForallMemChars
    {holds : Char → Prop}
    [DecidablePred holds]
    (chars : List Char) :
    Decidable (∀ char ∈ chars, holds char) :=
  List.decidableBAll holds chars

/-- A list that holds every character of a range holds each character in it. -/
theorem mem_of_range
    {chars : List Char}
    {least count : Nat}
    (listed : ∀ code < count, Char.ofNat (least + code) ∈ chars)
    {char : Char}
    (above : least ≤ char.toNat)
    (below : char.toNat < least + count) :
    char ∈ chars := by
  have member := listed (char.toNat - least) (by omega)
  rw [Nat.add_sub_cancel' above, Char.ofNat_toNat] at member
  exact member

def decimalDigits : List Char :=
  ['0', '1', '2', '3', '4', '5', '6', '7', '8', '9']

theorem mem_decimalDigits
    {char : Char}
    (digit : '0' ≤ char ∧ char ≤ '9') :
    char ∈ decimalDigits := by
  have least : 0x30 ≤ char.toNat := digit.1
  have most : char.toNat ≤ 0x39 := digit.2
  have listed : ∀ code < 10, Char.ofNat (0x30 + code) ∈ decimalDigits := by decide
  exact mem_of_range listed least (by omega)

end PhoneAccounts.Text

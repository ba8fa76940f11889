/-!
Contract: blank characters and the trimming of a field.

Owns: the class of blank characters and `trimBlank`.

Does not own: the line breaks and blanks of the markup (see `PhoneAccounts.Yaml`),
which is a much smaller class.
-/

namespace PhoneAccounts.Text

/-- Blank characters above the ASCII block. -/
def wideBlanks : List Nat :=
  [0x85, 0xA0, 0x1680, 0x2000, 0x2001, 0x2002, 0x2003, 0x2004, 0x2005, 0x2006,
    0x2007, 0x2008, 0x2009, 0x200A, 0x2028, 0x2029, 0x202F, 0x205F, 0x3000]

/-- Tabulators, line breaks, the four information separators, and every Unicode space. -/
def isBlank (char : Char) : Bool :=
  let code := char.toNat
  (0x09 ≤ code && code ≤ 0x0D) || (0x1C ≤ code && code ≤ 0x20) || wideBlanks.contains code

/-- The text without the blank characters at both of its ends. -/
def trimBlank (chars : List Char) : List Char :=
  ((chars.dropWhile isBlank).reverse.dropWhile isBlank).reverse

/-- A text that neither begins nor ends with a blank is left as it is. -/
theorem trimBlank_of_not_blank
    {chars : List Char}
    (first : ∀ char, chars.head? = some char → isBlank char = false)
    (last : ∀ char, chars.getLast? = some char → isBlank char = false) :
    trimBlank chars = chars := by
  cases chars with
  | nil => rfl
  | cons head tail =>
      have firstKept : (head :: tail).dropWhile isBlank = head :: tail := by
        simp [List.dropWhile, first head (by simp)]
      unfold trimBlank
      rw [firstKept]
      have lastKept :
          (head :: tail).reverse.dropWhile isBlank = (head :: tail).reverse := by
        cases reversed : (head :: tail).reverse with
        | nil => rfl
        | cons final rest =>
            have isLast : (head :: tail).getLast? = some final := by
              rw [List.getLast?_eq_head?_reverse, reversed]
              rfl
            simp [List.dropWhile, last final isLast]
      rw [lastKept, List.reverse_reverse]

end PhoneAccounts.Text

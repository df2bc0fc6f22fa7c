/-
Whole numbers in decimal: digits behind a minus sign or behind none, with any zeros between the two. Such a text
tells its number (`decimalValue_signed`).
-/
namespace ColumnSelect.Text

theorem isDigit_of_mem_toDigits {n : Nat} : ∀ c ∈ Nat.toDigits 10 n, c.isDigit = true :=
  fun _ hc => Nat.isDigit_of_mem_toDigits (by decide) (by decide) hc

theorem toDigits_eq_cons (n : Nat) : ∃ c cs, Nat.toDigits 10 n = c :: cs ∧ c.isDigit = true := by
  rcases hd : Nat.toDigits 10 n with _ | ⟨c, cs⟩
  · exact absurd hd Nat.toDigits_ne_nil
  · exact ⟨c, cs, rfl, isDigit_of_mem_toDigits c (by rw [hd]; exact List.mem_cons_self)⟩

/-- What stands in front of the digits of a number. -/
def signOf (n : Int) : List Char := if n < 0 then ['-'] else []

/-- A number is written by its digits, behind a minus sign where it is negative. -/
theorem toList_toString_int (n : Int) : (toString n).toList = signOf n ++ Nat.toDigits 10 n.natAbs := by
  rw [Int.toString_eq_repr, Int.repr_eq_if, signOf]
  by_cases h : n < 0
  · have habs : (-n).toNat = n.natAbs := by omega
    rw [if_neg (by omega), if_pos h, String.toList_append, Nat.toList_repr, habs]
    rfl
  · have habs : n.toNat = n.natAbs := by omega
    rw [if_pos (by omega), if_neg h, Nat.toList_repr, habs, List.nil_append]

/-- The number that digits, or digits behind a minus sign, are a text of. -/
def decimalValue : List Char → Int
  | '-' :: digits => -(Nat.ofDigitChars 10 digits 0 : Int)
  | digits => Nat.ofDigitChars 10 digits 0

theorem decimalValue_minus (digits : List Char) :
    decimalValue ('-' :: digits) = -(Nat.ofDigitChars 10 digits 0 : Int) := rfl

theorem decimalValue_digits {digits : List Char} (h : ∀ c ∈ digits, c.isDigit = true) :
    decimalValue digits = Nat.ofDigitChars 10 digits 0 := by
  refine decimalValue.eq_2 _ fun cs hcs => ?_
  have hminus := h '-' (hcs ▸ List.mem_cons_self)
  exact absurd hminus (by decide)

/-- Zeros in front of the digits of a number leave it as it is. -/
theorem ofDigitChars_zeros (k n : Nat) :
    Nat.ofDigitChars 10 (List.replicate k '0' ++ Nat.toDigits 10 n) 0 = n := by
  rw [Nat.ofDigitChars_append, Nat.ofDigitChars_replicate_zero, Nat.mul_zero, Nat.ofDigitChars_ten_toDigits]

theorem isDigit_of_mem_zeros {k n : Nat} :
    ∀ c ∈ List.replicate k '0' ++ Nat.toDigits 10 n, c.isDigit = true := by
  intro c hc
  rcases List.mem_append.1 hc with hzero | hdigit
  · rw [List.eq_of_mem_replicate hzero]
    decide
  · exact isDigit_of_mem_toDigits c hdigit

/-- The number is told by its text, with zeros behind the sign or without. -/
theorem decimalValue_signed (n : Int) (k : Nat) :
    decimalValue (signOf n ++ (List.replicate k '0' ++ Nat.toDigits 10 n.natAbs)) = n := by
  rw [signOf]
  split
  · rw [List.singleton_append, decimalValue_minus, ofDigitChars_zeros]
    omega
  · rw [List.nil_append, decimalValue_digits isDigit_of_mem_zeros, ofDigitChars_zeros]
    omega

end ColumnSelect.Text

/-
How the first character of a token tells what the token is: blanks, digits, quotes, punctuation and
the characters that may begin a bare name exclude one another.
-/
import ColumnSelect.Text.Identifier
import ColumnSelect.Token.Lexer
import ColumnSelect.Unicode.Blank

namespace ColumnSelect

namespace Unicode

/-! ## Sets without a common character -/

/-- No interval of one set meets an interval of the other. -/
def CodeSet.apart (s t : CodeSet) : Bool := s.all fun a => t.all fun b => a.2 < b.1 || b.2 < a.1

theorem CodeSet.not_has_of_apart {s t : CodeSet} (h : s.apart t = true) {c : Char}
    (hs : s.has c = true) : t.has c = false := by
  rw [CodeSet.has, List.any_eq_true] at hs
  obtain ⟨a, ha, hac⟩ := hs
  rw [CodeSet.has, List.any_eq_false]
  intro b hb hbc
  have hab := List.all_eq_true.1 (List.all_eq_true.1 h a ha) b hb
  simp only [Bool.and_eq_true, Bool.or_eq_true, decide_eq_true_eq] at hac hbc hab
  omega

/-- The decimal digits. -/
def decimal : CodeSet := [(0x30, 0x39)]

theorem blank_apart_alphabetic : CodeSet.apart blank alphabetic = true := by decide +kernel

theorem decimal_apart_alphabetic : CodeSet.apart decimal alphabetic = true := by decide +kernel

theorem decimal_apart_blank : CodeSet.apart decimal blank = true := by decide +kernel

theorem blank_apart_numeric : CodeSet.apart blank numeric = true := by decide +kernel

theorem has_decimal {c : Char} : decimal.has c = c.isDigit := by
  simp only [decimal, CodeSet.has, List.any_cons, List.any_nil, Bool.or_false, Char.isDigit,
    UInt32.le_iff_toNat_le, ge_iff_le]
  rfl

theorem has_alphabetic {c : Char} (h : isAlphabetic c = true) : alphabetic.has c = true := by
  unfold isAlphabetic at h
  split at h
  · rw [CodeSet.has, List.any_eq_true]
    rcases Bool.or_eq_true_iff.1 (show (c.isUpper || c.isLower) = true from h) with h | h
    · have hc : decide (65 ≤ c.val ∧ c.val ≤ 90) = true := h
      exact ⟨(0x41, 0x5A), by decide, by simpa [UInt32.le_iff_toNat_le] using hc⟩
    · have hc : (decide (97 ≤ c.val) && decide (c.val ≤ 122)) = true := h
      exact ⟨(0x61, 0x7A), by decide, by simpa [UInt32.le_iff_toNat_le] using hc⟩
  · exact h

theorem isAlphabetic_of_apart {s : CodeSet} (h : s.apart alphabetic = true) {c : Char}
    (hs : s.has c = true) : isAlphabetic c = false := by
  rw [Bool.eq_false_iff]
  intro hc
  have ha := has_alphabetic hc
  rw [CodeSet.not_has_of_apart h hs] at ha
  cases ha

theorem isBlank_of_isDigit {c : Char} (h : c.isDigit = true) : isBlank c = false :=
  CodeSet.not_has_of_apart decimal_apart_blank (has_decimal.trans h)

theorem isNumeric_of_isBlank {c : Char} (h : isBlank c = true) : isNumeric c = false := by
  unfold isNumeric
  split
  · rw [Bool.eq_false_iff]
    intro hd
    rw [isBlank_of_isDigit hd] at h
    cases h
  · exact CodeSet.not_has_of_apart blank_apart_numeric h

end Unicode

namespace Text

/-! ## First characters -/

theorem isNameStart_of_apart {s : Unicode.CodeSet} (h : s.apart Unicode.alphabetic = true)
    (hline : s.has '_' = false) (hdot : s.has '.' = false) {c : Char} (hs : s.has c = true) :
    isNameStart c = false := by
  have hc : ∀ d, s.has d = false → (c == d) = false := by
    intro d hd
    rw [beq_eq_false_iff_ne]
    rintro rfl
    rw [hs] at hd
    cases hd
  rw [isNameStart, Unicode.isAlphabetic_of_apart h hs, hc '_' hline, hc '.' hdot]
  rfl

theorem isNameStart_of_isBlank {c : Char} (h : Unicode.isBlank c = true) : isNameStart c = false :=
  isNameStart_of_apart Unicode.blank_apart_alphabetic (by decide) (by decide) h

theorem isNameStart_of_isDigit {c : Char} (h : c.isDigit = true) : isNameStart c = false :=
  isNameStart_of_apart Unicode.decimal_apart_alphabetic (by decide) (by decide)
    (Unicode.has_decimal.trans h)

theorem isNamePart_of_isDigit {c : Char} (h : c.isDigit = true) : isNamePart c = true := by
  have hc : c.toNat < 128 := by
    simp only [Char.isDigit, UInt32.le_iff_toNat_le, Bool.and_eq_true, decide_eq_true_eq] at h
    exact Nat.lt_of_le_of_lt h.2 (by decide)
  simp [isNamePart, Unicode.isAlphanumeric, Unicode.isNumeric, hc, h]

theorem isNamePart_of_isBlank {c : Char} (h : Unicode.isBlank c = true) : isNamePart c = false := by
  have hs := isNameStart_of_isBlank h
  simp only [isNameStart, Bool.or_eq_false_iff] at hs
  simp [isNamePart, Unicode.isAlphanumeric, hs, Unicode.isNumeric_of_isBlank h]

end Text

end ColumnSelect

/-
Names that may be written without quotes: they begin with a letter, a low line or a dot, go on with
letters, numbers, low lines and dots, and are not one of the words for the truth values.
-/
import ColumnSelect.Unicode.Letter

namespace ColumnSelect.Text

/-- Whether a bare name may begin with the character. -/
def isNameStart (c : Char) : Bool := Unicode.isAlphabetic c || c == '_' || c == '.'

/-- Whether a bare name may go on with the character. -/
def isNamePart (c : Char) : Bool := Unicode.isAlphanumeric c || c == '_' || c == '.'

/-- The truth value that a word stands for. -/
def truthValue? (word : List Char) : Option Bool :=
  if word = ['T', 'R', 'U', 'E'] || word = ['t', 'r', 'u', 'e'] then some true
  else if word = ['F', 'A', 'L', 'S', 'E'] || word = ['f', 'a', 'l', 's', 'e'] then some false
  else none

/-- Whether the name can be written without quotes. -/
def isBareName : List Char → Bool
  | [] => false
  | c :: cs => isNameStart c && cs.all isNamePart && (truthValue? (c :: cs)).isNone

theorem isNamePart_of_isNameStart {c : Char} (h : isNameStart c = true) : isNamePart c = true := by
  simp only [isNameStart, isNamePart, Unicode.isAlphanumeric, Bool.or_eq_true] at *
  rcases h with (h | h) | h <;> simp [h]

end ColumnSelect.Text

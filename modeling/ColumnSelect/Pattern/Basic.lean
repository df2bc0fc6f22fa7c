/-
Regular expressions: the parts of a pattern that decide what it matches. Groups, names of groups and
the preference between longer and shorter matches have no part in that.
-/
import ColumnSelect.Unicode.CodeSet

namespace ColumnSelect

/-- A condition on the characters on either side of a place in the text. Word characters are those
of a set of its own. -/
inductive Anchor where
  | textStart
  | textEnd
  | lineStart
  | lineEnd
  /-- As `lineStart`, where a carriage return and a line feed end a line, alone or together. -/
  | lineStartCrlf
  | lineEndCrlf
  | boundary (word : Unicode.CodeSet)
  | noBoundary (word : Unicode.CodeSet)
  | wordStart (word : Unicode.CodeSet)
  | wordEnd (word : Unicode.CodeSet)
  /-- No word character stands before the place. -/
  | halfStart (word : Unicode.CodeSet)
  /-- No word character stands behind the place. -/
  | halfEnd (word : Unicode.CodeSet)

/-- Whether the condition holds between two characters, of which either may be missing. -/
def Anchor.holds (before after : Option Char) : Anchor → Bool
  | textStart => before.isNone
  | textEnd => after.isNone
  | lineStart => before.all (· == '\n')
  | lineEnd => after.all (· == '\n')
  | lineStartCrlf => before.all fun c => c == '\n' || (c == '\r' && after != some '\n')
  | lineEndCrlf => after.all fun c => c == '\r' || (c == '\n' && before != some '\r')
  | boundary word => before.any word.has != after.any word.has
  | noBoundary word => before.any word.has == after.any word.has
  | wordStart word => !before.any word.has && after.any word.has
  | wordEnd word => before.any word.has && !after.any word.has
  | halfStart word => !before.any word.has
  | halfEnd word => !after.any word.has

/-- A regular expression. -/
inductive Pattern where
  /-- The empty text. -/
  | empty
  /-- One character of a set. -/
  | one (set : Unicode.CodeSet)
  /-- The empty text, where a condition holds. -/
  | anchor (a : Anchor)
  /-- One pattern behind the other. -/
  | seq (p q : Pattern)
  /-- Either of two patterns. -/
  | alt (p q : Pattern)
  /-- A pattern some number of times in a row: at least `least` times and, where `most` is given, at
  most that often. -/
  | times (least : Nat) (most : Option Nat) (p : Pattern)

end ColumnSelect

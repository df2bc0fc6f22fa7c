/-
Places in a text as a reader counts them: lines from 1, and columns in characters from 1 within the
line. Only a line feed ends a line.
-/
namespace ColumnSelect.Text

/-- A line and a column, both counted from 1. -/
structure Position where
  line : Nat
  column : Nat
deriving DecidableEq, Repr

namespace Position

/-- Where a text begins. -/
def start : Position := ⟨1, 1⟩

/-- The position behind a character that stands at `p`. -/
def advance (p : Position) (c : Char) : Position :=
  if c = '\n' then ⟨p.line + 1, 1⟩ else ⟨p.line, p.column + 1⟩

/-- The position of the boundary behind the first `offset` characters of the text. -/
def ofOffset (text : List Char) (offset : Nat) : Position :=
  (text.take offset).foldl advance start

end Position

end ColumnSelect.Text

/-
The engine of the program: a pattern is read and then matched by tables of lengths.
-/
import ColumnSelect.Pattern.Engine
import ColumnSelect.Pattern.Match
import ColumnSelect.Pattern.Parser

namespace ColumnSelect.Pattern

instance standard : Engine where
  compile caseless pattern :=
    match parse caseless pattern.toList with
    | .error fault => .error fault.text
    | .ok p => .ok fun text => p.occurs text.toList

end ColumnSelect.Pattern

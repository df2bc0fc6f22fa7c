/-
Blank characters: the White_Space property of Unicode, line ends and no-break spaces included.
-/
import ColumnSelect.Unicode.CodeSet

namespace ColumnSelect.Unicode

/-- The characters with the White_Space property. -/
def blank : CodeSet := [
  (0x9, 0xD), (0x20, 0x20), (0x85, 0x85), (0xA0, 0xA0), (0x1680, 0x1680), (0x2000, 0x200A),
  (0x2028, 0x2029), (0x202F, 0x202F), (0x205F, 0x205F), (0x3000, 0x3000)]

/-- Whether the character is white space. -/
def isBlank (c : Char) : Bool := blank.has c

end ColumnSelect.Unicode

/-
The words of the program for faults of JSON texts. Where in a text they are is not told.
-/
import ColumnSelect.Decimal.Shortest
import ColumnSelect.Json.Fault
import ColumnSelect.Text.Quoted

namespace ColumnSelect.Json

/-- What is found, as messages name it. -/
def Found.text : Found → String
  | null => "null"
  | bool value => s!"boolean \x60{value}\x60"
  | integer value => s!"integer \x60{value}\x60"
  | float value => s!"floating point \x60{Decimal.floatText value}\x60"
  | str text => s!"string {Text.quoted text}"
  | sequence => "sequence"
  | map => "map"

/-- A name between accents. -/
def accented (name : String) : String := s!"\x60{name}\x60"

/-- The names that were expected, as messages list them. -/
def oneOf : List String → String
  | [a] => accented a
  | [a, b] => s!"{accented a} or {accented b}"
  | names => "one of " ++ ", ".intercalate (names.map accented)

/-- The wording of a difference. -/
def Mismatch.text : Mismatch → String
  | wrongType found expected => s!"invalid type: {found.text}, expected {expected}"
  | wrongValue found expected => s!"invalid value: {found.text}, expected {expected}"
  | wrongLength length expected => s!"invalid length {length}, expected {expected}"
  | unknownField name expected => s!"unknown field {accented name}, expected {oneOf expected}"
  | unknownVariant name expected => s!"unknown variant {accented name}, expected {oneOf expected}"
  | missingField name => s!"missing field {accented name}"
  | duplicateField name => s!"duplicate field {accented name}"

/-- The wording of a fault. -/
def Fault.text : Fault → String
  | malformed => "malformed JSON text"
  | mismatch m => m.text

instance standard : Wording where
  tell _ fault := fault.text

end ColumnSelect.Json

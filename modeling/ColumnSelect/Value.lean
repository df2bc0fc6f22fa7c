/-
What expressions evaluate to: signed numbers, mostly positions from 1 of which the negative ones
exclude, or a string or truth value for a matcher.
-/
import ColumnSelect.Error

namespace ColumnSelect

/-- The value of an expression. -/
inductive Value where
  | ints (numbers : List Int)
  | str (text : String)
  | bool (value : Bool)
deriving DecidableEq

namespace Value

/-- The kind of a value, as messages name it. -/
def kind : Value → ValueKind
  | ints [_] => .number
  | ints _ => .numbers
  | str _ => .string
  | bool _ => .logical

/-- The largest number. -/
def maxInt : Int := 9223372036854775807

/-- The number with the other sign. The least number has no opposite and becomes the largest. -/
def opposite (n : Int) : Int := min (-n) maxInt

/-- All numbers from one to another in steps of one, upwards or downwards. -/
def between (first last : Int) : List Int :=
  (List.range ((last - first).natAbs + 1)).map fun (i : Nat) =>
    if first ≤ last then first + i else first - i

/-- A range, which must not hold too many numbers. -/
def range (first last : Int) : Except Error Value :=
  if maxRangeLength ≤ (first - last).natAbs then
    .error (.misuse s!"{first}:{last}" .rangeTooLong)
  else .ok (.ints (between first last))

end Value

end ColumnSelect

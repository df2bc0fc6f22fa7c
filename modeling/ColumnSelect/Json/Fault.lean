/-
Why a JSON text is not taken. Either it is not well formed, or it is up to there and has another
shape than what is read from it. The first fault from left to right is told, in words that are left open.
-/
namespace ColumnSelect.Json

/-- What is found in a text in place of something else. -/
inductive Found where
  | null
  | bool (value : Bool)
  | integer (value : Int)
  | float (value : Float)
  | str (text : String)
  | sequence
  | map

/-- How a text differs from the shape needed. -/
inductive Mismatch where
  | wrongType (found : Found) (expected : String)
  | wrongValue (found : Found) (expected : String)
  | wrongLength (length : Nat) (expected : String)
  | unknownField (name : String) (expected : List String)
  | unknownVariant (name : String) (expected : List String)
  | missingField (name : String)
  | duplicateField (name : String)

/-- Why a text is not taken. -/
inductive Fault where
  | malformed
  | mismatch (m : Mismatch)

/-- The words in which the fault of a text is told. They may tell where in the text it is. -/
class Wording where
  tell (text : String) (fault : Fault) : String

end ColumnSelect.Json

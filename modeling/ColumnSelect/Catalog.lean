/-
The catalog: the names of all columns in order. Positions count from 1. A name may occur more than
once and then stands for its first position; the names of the matchers hide columns of those names.
-/
import ColumnSelect.Error

namespace ColumnSelect

/-- The names of the columns, in order. -/
abbrev Catalog := List String

/-- What a name stands for. -/
inductive Binding where
  | matcher (m : Matcher)
  | position (p : Nat)
deriving DecidableEq

namespace Catalog

/-- The first position of a name. -/
def position? (catalog : Catalog) (name : String) : Option Nat :=
  (catalog.findIdx? (· == name)).map (· + 1)

/-- The first position of a name, which must be in the catalog. -/
def position (catalog : Catalog) (name : String) : Except Error Nat :=
  match catalog.position? name with
  | some p => .ok p
  | none => .error (.ofCause (.unknownVariable name))

/-- The name at a position. -/
def nameAt? (catalog : Catalog) (position : Nat) : Option String :=
  match position with
  | 0 => none
  | i + 1 => catalog[i]?

/-- What a name stands for, matchers first. -/
def lookup? (catalog : Catalog) (name : String) : Option Binding :=
  match Matcher.ofName? name with
  | some m => some (.matcher m)
  | none => (catalog.position? name).map .position

/-- The positions of the names that satisfy a condition. -/
def positionsWhere (catalog : Catalog) (p : String → Bool) : List Nat :=
  (catalog.zipIdx 1).filterMap fun entry => if p entry.1 then some entry.2 else none

end Catalog

end ColumnSelect

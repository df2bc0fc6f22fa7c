/-
Mappings: the columns of a result in order, each with the column of the catalog that it reads.
Output names may repeat.
-/
import ColumnSelect.Catalog

namespace ColumnSelect

/-- A column of a result: its own name, and the name of the column it reads. -/
structure Entry where
  output : String
  source : String
deriving DecidableEq, Repr

/-- A column under its own name. -/
def Entry.same (name : String) : Entry := ⟨name, name⟩

/-- The columns of a result, in order. -/
abbrev Mapping := List Entry

namespace Mapping

/-- Every column under its own name. -/
def identity (catalog : Catalog) : Mapping := catalog.map Entry.same

/-- The output names, in order. -/
def outputs (mapping : Mapping) : List String := mapping.map Entry.output

/-- The sources, in order. -/
def sources (mapping : Mapping) : List String := mapping.map Entry.source

/-- The source of the first column of that name. -/
def get? (mapping : Mapping) (output : String) : Option String :=
  (mapping.find? fun e => e.output == output).map Entry.source

end Mapping

end ColumnSelect

/-
Mappings as JSON: an array of objects with an output and a source.
-/
import ColumnSelect.Json.Reader
import ColumnSelect.Json.Value
import ColumnSelect.Mapping

namespace ColumnSelect

/-- A column of a result as JSON. -/
def Entry.toJson (e : Entry) : Json := .obj [("output", .str e.output), ("source", .str e.source)]

/-- A mapping as JSON. -/
def Mapping.toJson (mapping : Mapping) : Json := .arr (mapping.map Entry.toJson)

/-- How a column of a result is read: both fields must be there, and any others are left out of
account. -/
def Entry.record : Json.Record (Option String × Option String) Entry where
  name := "SelectionEntry"
  fields := [
    ("output", fun draft cs => do
      let (text, rest) ← Json.readString "a string" cs
      return ((some text, draft.2), rest)),
    ("source", fun draft cs => do
      let (text, rest) ← Json.readString "a string" cs
      return ((draft.1, some text), rest))]
  strict := false
  start := (none, none)
  complete
    | (some output, some source) => .ok ⟨output, source⟩
    | (none, _) => .error "output"
    | (_, none) => .error "source"

/-- The mapping in a JSON text. -/
def Mapping.ofJsonText (text : String) : Except Json.Fault Mapping :=
  Json.readText (Json.readList Entry.record.read) text

end ColumnSelect

/-
Requests: a catalog, the text of a selection, and the names of columns to keep and to take out. A
request is read from a JSON text in UTF-8; only the catalog must be there.
-/
import ColumnSelect.Command.Error
import ColumnSelect.Unicode.Blank

namespace ColumnSelect.Command

/-- What is asked of a command. -/
structure Request where
  catalog : Catalog
  selection : String
  keep : List String
  leave : List String
deriving DecidableEq, Repr

namespace Request

/-- The fields of a request that were read so far. -/
structure Draft where
  catalog : Option (List String)
  selection : String
  keep : List String
  leave : List String

/-- A list of names. -/
def readNames : Json.Reader (List String) := Json.readList (Json.readString "a string")

/-- How a request is read. -/
def record : Json.Record Draft Request where
  name := "SelectionRequest"
  fields := [
    ("catalog", fun draft cs => do
      let (names, rest) ← readNames cs
      return ({ draft with catalog := some names }, rest)),
    ("selection", fun draft cs => do
      let (text, rest) ← Json.readString "a string" cs
      return ({ draft with selection := text }, rest)),
    ("include", fun draft cs => do
      let (names, rest) ← readNames cs
      return ({ draft with keep := names }, rest)),
    ("exclude", fun draft cs => do
      let (names, rest) ← readNames cs
      return ({ draft with leave := names }, rest))]
  strict := true
  start := ⟨none, "", [], []⟩
  complete draft :=
    match draft.catalog with
    | some catalog => .ok ⟨catalog, draft.selection, draft.keep, draft.leave⟩
    | none => .error "catalog"

/-- The request in a text. -/
def ofText (text : String) : Except Failure Request :=
  if text.toList.all Unicode.isBlank then .error (.refused .emptyInput)
  else (Json.readText record.read text).mapError (.json text)

/-- What the system says of bytes that are not UTF-8. -/
def notText : String := "stream did not contain valid UTF-8"

/-- The request in bytes. -/
def ofBytes (bytes : ByteArray) : Except Failure Request :=
  match String.fromUTF8? bytes with
  | some text => ofText text
  | none => .error (.input notText)

/-- The options of a selection that the request and the configuration give. -/
def options (request : Request) (config : Config) : Options :=
  { config.options with keep := request.keep, leave := request.leave }

end Request

end ColumnSelect.Command

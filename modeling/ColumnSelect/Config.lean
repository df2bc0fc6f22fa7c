/-
Configuration: what one name does for several columns, whether resolutions are traced, and how many
terms a request may have. It is read from a JSON text in which every field may be missing and no
other may stand.
-/
import ColumnSelect.Json.Reader
import ColumnSelect.Json.Value
import ColumnSelect.Selection.Resolution

namespace ColumnSelect

/-- The settings under which requests are answered. -/
structure Config where
  multiRename : MultiRename
  logResolutions : Bool
  maxTerms : Nat
deriving DecidableEq, Repr

namespace Config

/-- The settings where nothing else is said. -/
def standard : Config := ⟨.numbered, false, 1024⟩

/-- Why a configuration is not taken. -/
inductive Fault where
  /-- The file cannot be read. -/
  | unreadable (path reason : String)
  /-- The text of the file is not taken. -/
  | json (text : String) (fault : Json.Fault)
  /-- No term would be allowed. -/
  | noTerms

/-- The wording of a fault. -/
def Fault.text [Json.Wording] : Fault → String
  | unreadable path reason => s!"Failed to read config {path}: {reason}"
  | json text fault => s!"Invalid config JSON: {Json.Wording.tell text fault}"
  | noTerms => "Invalid config value: max_terms must be > 0"

/-- A configuration as JSON. -/
def toJson (config : Config) : Json :=
  .obj [("multi_rename", .str config.multiRename.text),
    ("log_resolutions", .bool config.logResolutions),
    ("max_terms", .int config.maxTerms)]

/-- How a configuration is read, starting from the standard one. -/
def record : Json.Record Config Config where
  name := "Config"
  fields := [
    ("multi_rename", fun draft cs => do
      let (policy, rest) ←
        Json.readChoice [("numbered", MultiRename.numbered), ("reject", MultiRename.reject)] cs
      return ({ draft with multiRename := policy }, rest)),
    ("log_resolutions", fun draft cs => do
      let (value, rest) ← Json.readBool cs
      return ({ draft with logResolutions := value }, rest)),
    ("max_terms", fun draft cs => do
      let (value, rest) ← Json.readCount cs
      return ({ draft with maxTerms := value }, rest))]
  strict := true
  start := standard
  complete := .ok

/-- The configuration in a JSON text, which must allow some term. -/
def ofJsonText (text : String) : Except Fault Config := do
  let config ← (Json.readText record.read text).mapError (.json text)
  if config.maxTerms = 0 then throw .noTerms
  return config

/-- The options of a selection that only say what the configuration says. -/
def options (config : Config) : Options := .plain config.multiRename

end Config

end ColumnSelect

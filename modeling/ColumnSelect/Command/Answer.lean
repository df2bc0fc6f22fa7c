/-
What the commands answer to a request and what they log on the way. Each command is a scope: its
beginning is logged first and its end last. A rename with columns to keep or to take out is refused
before its scope begins.
-/
import ColumnSelect.Command.Request
import ColumnSelect.Log.Scope
import ColumnSelect.Selection.Explain
import ColumnSelect.Selection.Rename
import ColumnSelect.Term.Parser

namespace ColumnSelect.Command

open Log

variable [Pattern.Engine] [Json.Wording]

/-- The terms of a request, of which there must not be more than the configuration allows. -/
def readTerms (config : Config) (request : Request) : Except Failure (List Term) := do
  let terms ← (Term.ofText request.selection).mapError .selection
  if config.maxTerms < terms.length then
    throw (.refused (.tooManyTerms terms.length config.maxTerms))
  return terms

/-- The field that tells the size of the catalog. -/
def catalogField (request : Request) : Field := ("catalog", toString request.catalog.length)

/-- The resolution of a request, and what it logs. -/
def resolveRequest (config : Config) (request : Request) :
    Except Failure Resolution × List Record :=
  match readTerms config request with
  | .error f => (.error f, [])
  | .ok terms =>
    let (result, log) :=
      tracedResolution request.catalog (request.options config) config.logResolutions terms
    (result.mapError .selection, log)

/-- The rename of a request, and what it logs. -/
def renameRequest (config : Config) (request : Request) :
    Except Failure Mapping × List Record :=
  match readTerms config request with
  | .error f => (.error f, [])
  | .ok terms =>
    let (result, log) := tracedRename request.catalog config.logResolutions terms
    (result.mapError .selection, log)

/-- Selects columns. -/
def select (config : Config) (request : Request) : Except Failure Mapping × List Record :=
  let (result, log) := resolveRequest config request
  let ending : Ending :=
    match result with
    | .ok r => .complete [("columns", toString r.mapping.length)]
    | .error f => .fail f.code f.text
  (result.map Resolution.mapping, Scope.around "SELECT" [catalogField request] log ending)

/-- Renames columns. -/
def renameColumns (config : Config) (request : Request) : Except Failure Mapping × List Record :=
  if !request.keep.isEmpty || !request.leave.isEmpty then
    (.error (.refused .renameWithOptions), [])
  else
    let (result, log) := renameRequest config request
    let ending : Ending :=
      match result with
      | .ok _ => .complete []
      | .error f => .fail f.code f.text
    (result, Scope.around "RENAME" [catalogField request] log ending)

/-- Explains a selection. A request whose terms cannot be read, or are too many, is explained by that
failure; the rest is the account of the resolution, its own error included. -/
def explain (config : Config) (request : Request) : Explanation × List Record :=
  let (explanation, log) :=
    match readTerms config request with
    | .error f => (Explanation.rejected f.code f.text, [])
    | .ok terms =>
      let (result, log) :=
        tracedResolution request.catalog (request.options config) config.logResolutions terms
      (Explanation.ofOutcome result, log)
  let accepted := Event.explainComplete.record [("accepted", toString explanation.isAccepted)]
  (explanation, Scope.around "EXPLAIN" [] (log ++ [accepted]) (.complete []))

end ColumnSelect.Command

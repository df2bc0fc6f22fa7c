/-
The events that are logged besides the beginning and the end of requests.
-/
import ColumnSelect.Log.Record

namespace ColumnSelect.Log

/-- Something worth logging. -/
inductive Event where
  /-- A configuration file was read and found valid. -/
  | configLoaded
  /-- A request was read. -/
  | requestReceived
  /-- One term was evaluated. -/
  | termEvaluated
  /-- A selection was resolved. -/
  | selectionComplete
  /-- A selection was refused. -/
  | selectionFailed
  /-- A rename was resolved. -/
  | renameComplete
  /-- An explanation was made. -/
  | explainComplete
deriving DecidableEq, Repr

namespace Event

/-- The written form of an event. -/
def text : Event → String
  | configLoaded => "CONFIG_LOADED"
  | requestReceived => "REQUEST_RECEIVED"
  | termEvaluated => "TERM_EVALUATED"
  | selectionComplete => "SELECTION_COMPLETE"
  | selectionFailed => "SELECTION_FAILED"
  | renameComplete => "RENAME_COMPLETE"
  | explainComplete => "EXPLAIN_COMPLETE"

/-- The severity of an event: detail, a refusal, or the usual course of things. -/
def severity : Event → Severity
  | termEvaluated => .trace
  | selectionFailed => .warn
  | _ => .info

/-- The record of an event. -/
def record (event : Event) (fields : List Field) : Record :=
  .of event.severity event.text fields

end Event

end ColumnSelect.Log

/-
Log records and the lines they are written as. A line is one JSON object of strings: the event, the
severity, and then the fields in the order of their keys, fields of one key in the order given.
-/
import ColumnSelect.Text.Hexadecimal

namespace ColumnSelect.Log

/-- How much a record matters. -/
inductive Severity where
  | trace
  | info
  | warn
deriving DecidableEq, Repr

/-- The written form of a severity. -/
def Severity.text : Severity → String
  | trace => "TRACE"
  | info => "INFO"
  | warn => "WARN"

/-- A key and its value. -/
abbrev Field := String × String

/-- One event that is logged. A timed record tells, among its fields, how long what it completes
took; its time is known only when it is written. -/
structure Record where
  severity : Severity
  event : String
  fields : List Field
  timed : Bool
deriving DecidableEq

/-- Whether the character is a control character. -/
def isControl (c : Char) : Bool := c.toNat < 32 || (127 ≤ c.toNat && c.toNat < 160)

/-- A character inside of quotes. -/
def escapeChar (c : Char) : List Char :=
  if c = '"' || c = '\\' then ['\\', c]
  else if c = '\n' then ['\\', 'n']
  else if c = '\r' then ['\\', 'r']
  else if c = '\t' then ['\\', 't']
  else if isControl c then '\\' :: 'u' :: Text.hexFour c.toNat
  else [c]

/-- A text in quotes. -/
def quote (text : String) : List Char := '"' :: text.toList.flatMap escapeChar ++ ['"']

/-- A key and its value in quotes, with a colon between them. -/
def writeField (field : Field) : List Char := quote field.1 ++ ':' :: quote field.2

/-- The fields in the order in which they are written. -/
def sortFields (fields : List Field) : List Field :=
  fields.mergeSort fun a b => !(b.1 < a.1)

namespace Record

/-- The record that an event is logged as. -/
def of (severity : Severity) (event : String) (fields : List Field) : Record :=
  ⟨severity, event, fields, false⟩

/-- All fields of a record for which the given time, in microseconds, has passed. -/
def allFields (elapsed : Nat) (r : Record) : List Field :=
  if r.timed then r.fields ++ [("elapsed_us", toString elapsed)] else r.fields

/-- The members of the object that a record is written as. -/
def members (elapsed : Nat) (r : Record) : List Field :=
  ("event", r.event) :: ("severity", r.severity.text) :: sortFields (r.allFields elapsed)

/-- The line of a record, without its line end. -/
def line (elapsed : Nat) (r : Record) : List Char :=
  '\x7b' :: List.intercalate [','] ((r.members elapsed).map writeField) ++ ['\x7d']

/-- What is written for a record: its line, and the line end. -/
def text (elapsed : Nat) (r : Record) : String := String.ofList (r.line elapsed ++ ['\n'])

end Record

end ColumnSelect.Log

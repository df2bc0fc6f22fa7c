/-
Why a command is not answered as asked. Most errors are told in the response; those of the
configuration and of reading the request end the command instead.
-/
import ColumnSelect.Config
import ColumnSelect.Error

namespace ColumnSelect.Command

/-- What is wrong with a request that could be read. -/
inductive Refusal where
  /-- Nothing but blanks was sent. -/
  | emptyInput
  | tooManyTerms (terms maxTerms : Nat)
  /-- A rename was asked to keep or take out columns. -/
  | renameWithOptions
  | note (text : String)

/-- The wording of a refusal. -/
def Refusal.text : Refusal → String
  | emptyInput => "Empty input"
  | tooManyTerms terms maxTerms => s!"{terms} terms exceeds max_terms ({maxTerms})"
  | renameWithOptions => "include and exclude do not apply to rename"
  | note text => text

/-- Why a command fails. -/
inductive Failure where
  | config (fault : Config.Fault)
  /-- The request could not be read, for a reason that the system tells. -/
  | input (reason : String)
  /-- The request is not taken. -/
  | json (text : String) (fault : Json.Fault)
  | refused (refusal : Refusal)
  | selection (e : Error)

namespace Failure

/-- The code of a failure. -/
def code : Failure → String
  | config _ => "CLI_CONFIG_ERROR"
  | input _ => "CLI_IO_ERROR"
  | json _ _ => "CLI_INVALID_JSON"
  | refused _ => "CLI_INVALID_REQUEST"
  | selection e => e.code.text

/-- The wording of a failure. -/
def text [Json.Wording] : Failure → String
  | config fault => s!"Configuration error: {fault.text}"
  | input reason => s!"I/O error: {reason}"
  | json text fault => s!"Invalid request JSON: {Json.Wording.tell text fault}"
  | refused refusal => s!"Invalid request: {refusal.text}"
  | selection e => e.text

/-- Whether the failure is told in the response. -/
def isTold : Failure → Bool
  | config _ | input _ => false
  | json _ _ | refused _ | selection _ => true

end Failure

end ColumnSelect.Command

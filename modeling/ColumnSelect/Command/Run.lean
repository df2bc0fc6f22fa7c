/-
A whole run of the program, from the content of the configuration file and the bytes of the request
to what is written. The configuration is read first. A failure that the response can tell is one
line of JSON like a success; any other ends the run with nothing written.
-/
import ColumnSelect.Command.Arguments
import ColumnSelect.Command.Answer
import ColumnSelect.Selection.Json

namespace ColumnSelect.Command

open Log

variable [Pattern.Engine] [Json.Wording]

/-- A file by its path and what reading it gave: its bytes, or why it cannot be read. -/
structure File where
  path : String
  content : Except String ByteArray

/-- The configuration of a run, the standard one where no file is given. -/
def loadConfig : Option File → Except Failure Config
  | none => .ok .standard
  | some file =>
    Except.mapError Failure.config do
      match file.content with
      | .error reason => throw (.unreadable file.path reason)
      | .ok bytes =>
        match String.fromUTF8? bytes with
        | none => throw (.unreadable file.path Request.notText)
        | some text => Config.ofJsonText text

/-- What is logged of the configuration, which is nothing where no file is given. -/
def configRecords (file : Option File) (config : Config) : List Record :=
  if file.isSome then
    [Event.configLoaded.record
      [("max_terms", toString config.maxTerms), ("multi_rename", config.multiRename.text)]]
  else []

/-- What is logged of a request that was read. -/
def requestRecord (request : Request) : Record :=
  Event.requestReceived.record [catalogField request]

/-- What a run leaves behind: what it writes, what it logs, and why it fails. -/
structure Outcome where
  stdout : String
  log : List Record
  failure : Option Failure

/-- The line that tells a success. -/
def successLine (data : Json) : String :=
  (Json.sortKeys (.obj [("status", .str "ok"), ("data", data)])).text ++ "\n"

/-- The line that tells a failure. -/
def failureLine (f : Failure) : String :=
  (Json.sortKeys (.obj
    [("status", .str "error"), ("code", .str f.code), ("message", .str f.text)])).text ++ "\n"

/-- The outcome of a command that answers with JSON or fails. -/
def Outcome.respond (log : List Record) : Except Failure Json → Outcome
  | .ok data => ⟨successLine data, log, none⟩
  | .error f => if f.isTold then ⟨failureLine f, log, none⟩ else ⟨"", log, some f⟩

/-- The outcome for a request that was read. -/
def answer (verb : Verb) (config : Config) (request : Request) : Outcome :=
  match verb with
  | .select =>
    let (result, log) := select config request
    .respond log (result.map Mapping.toJson)
  | .rename =>
    let (result, log) := renameColumns config request
    .respond log (result.map Mapping.toJson)
  | .explain text =>
    let (explanation, log) := explain config request
    if text then ⟨explanation.text, log, none⟩ else .respond log (.ok explanation.toJson)

/-- The request in what was read, which is bytes or why there are none. -/
def receive (input : Except String ByteArray) : Except Failure Request := do
  Request.ofBytes (← input.mapError .input)

/-- The outcome for the bytes of a request under a configuration. -/
def runRequest (verb : Verb) (config : Config) (input : Except String ByteArray) : Outcome :=
  match receive input with
  | .error f => .respond [] (.error f)
  | .ok request =>
    let outcome := answer verb config request
    { outcome with log := requestRecord request :: outcome.log }

/-- The outcome of a run. -/
def run (verb : Verb) (file : Option File) (input : Except String ByteArray) : Outcome :=
  match loadConfig file with
  | .error f => ⟨"", [], some f⟩
  | .ok config =>
    let outcome := runRequest verb config input
    { outcome with log := configRecords file config ++ outcome.log }

end ColumnSelect.Command

/-
The command line program: a request comes in on standard input, the response goes out on standard
output, and the log on standard error. Only a configuration that is taken lets the request be read.
-/
import ColumnSelect.Command.Run
import ColumnSelect.Json.Standard
import ColumnSelect.Pattern.Standard

namespace ColumnSelect.Command

/-- Why reading failed, in the words of the system. -/
def failureReason : IO.Error → String
  | .noFileOrDirectory _ _ _ => "No such file or directory (os error 2)"
  | .permissionDenied _ code details => s!"{details} (os error {code})"
  | .inappropriateType _ code details => s!"{details} (os error {code})"
  | .invalidArgument _ code details => s!"{details} (os error {code})"
  | .resourceExhausted _ code details => s!"{details} (os error {code})"
  | e => toString e

/-- What reading gave: bytes, or why there are none. -/
def attempt (read : IO ByteArray) : IO (Except String ByteArray) := do
  try
    return .ok (← read)
  catch e =>
    return .error (failureReason e)

/-- The file at a path. -/
def readFile (path : String) : IO File := do
  return ⟨path, ← attempt (IO.FS.readBinFile path)⟩

/-- How the program is called. -/
def usageText : String :=
  "Usage: select [--config PATH] | rename [--config PATH] | explain [--config PATH] [--text]"

/-- Tells how the program is called, and ends it. -/
def tellUsage (usage : Usage) : IO UInt32 := do
  match usage with
  | .help => IO.println usageText
  | .wrong => IO.eprintln usageText
  return UInt32.ofNat usage.exitCode

/-- Writes the outcome of a run that took the given time, and ends the program. -/
def tellOutcome (elapsed : Nat) (outcome : Outcome) : IO UInt32 := do
  for record in outcome.log do
    IO.eprint (record.text elapsed)
  IO.print outcome.stdout
  match outcome.failure with
  | none => return 0
  | some failure => do
    IO.eprintln failure.text
    return 1

/-- Runs a command on standard input. -/
def runInvocation (invocation : Invocation) : IO UInt32 := do
  let began ← IO.monoNanosNow
  let file ← invocation.config.mapM readFile
  let input ←
    match loadConfig file with
    | .ok _ => attempt (do (← IO.getStdin).readBinToEnd)
    | .error _ => pure (.ok .empty)
  let outcome := run invocation.verb file input
  tellOutcome (((← IO.monoNanosNow) - began) / 1000) outcome

end ColumnSelect.Command

/-- Runs the command that the arguments stand for. -/
def main (args : List String) : IO UInt32 :=
  match ColumnSelect.Command.Invocation.ofArguments args with
  | .error usage => ColumnSelect.Command.tellUsage usage
  | .ok invocation => ColumnSelect.Command.runInvocation invocation

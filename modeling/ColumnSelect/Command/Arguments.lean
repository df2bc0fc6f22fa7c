/-
The command line: one of the commands `select`, `rename` and `explain`, the path of a configuration
after `--config` or `--config=`, and `--text` for a report in words. Requests for help or for the
version are answered as soon as they are met; whatever is wrong before them comes first.
-/
namespace ColumnSelect.Command

/-- What to do with a request. -/
inductive Verb where
  | select
  | rename
  | explain (text : Bool)
deriving DecidableEq, Repr

/-- A command line that was understood. -/
structure Invocation where
  verb : Verb
  config : Option String
deriving DecidableEq, Repr

/-- Why a command line does not run a command. -/
inductive Usage where
  /-- It is not understood. -/
  | wrong
  /-- It asks for help or for the version. -/
  | help
deriving DecidableEq, Repr

/-- The exit code that tells why a command line does not run a command. -/
def Usage.exitCode : Usage → Nat
  | wrong => 2
  | help => 0

/-- The options of a command. -/
structure Switches where
  config : Option String
  text : Bool

/-- The switches with the path of a configuration, which is given once and not empty. -/
def Switches.withConfig (switches : Switches) (path : String) : Except Usage Switches :=
  if switches.config.isSome || path.isEmpty then .error .wrong
  else .ok { switches with config := some path }

/-- Whether an argument is taken for an option rather than for a value. -/
def isOption (argument : String) : Bool :=
  match argument.toList with
  | '-' :: _ :: _ => true
  | _ => false

/-- Whether an argument asks for help by its short name, alone or before other letters. -/
def isShortHelp (argument : String) : Bool := ['-', 'h'].isPrefixOf argument.toList

/-- Whether an argument asks for the version by its short name, alone or before other letters. -/
def isShortVersion (argument : String) : Bool := ['-', 'V'].isPrefixOf argument.toList

/-- The path behind `--config=`. -/
def attachedConfig? (argument : String) : Option String :=
  let lead := "--config=".toList
  if lead.isPrefixOf argument.toList then some (String.ofList (argument.toList.drop lead.length))
  else none

/-- The switches of a command, of which only some take `--text`. -/
def readSwitches (takesText : Bool) (switches : Switches) : List String → Except Usage Switches
  | [] => .ok switches
  | "--config" :: path :: rest =>
    if isOption path then .error .wrong
    else do readSwitches takesText (← switches.withConfig path) rest
  | argument :: rest =>
    if argument = "--" then if rest.isEmpty then .ok switches else .error .wrong
    else if argument = "--help" || isShortHelp argument then .error .help
    else if argument = "--text" && takesText && !switches.text then
      readSwitches takesText { switches with text := true } rest
    else
      match attachedConfig? argument with
      | some path => do readSwitches takesText (← switches.withConfig path) rest
      | none => .error .wrong

/-- The commands that help can be asked for. -/
def helpTopics : List String := ["select", "rename", "explain", "help"]

/-- The invocation that a command line, the name of the program left out, stands for. -/
def Invocation.ofArguments : List String → Except Usage Invocation
  | "select" :: rest => do return ⟨.select, (← readSwitches false ⟨none, false⟩ rest).config⟩
  | "rename" :: rest => do return ⟨.rename, (← readSwitches false ⟨none, false⟩ rest).config⟩
  | "explain" :: rest => do
    let switches ← readSwitches true ⟨none, false⟩ rest
    return ⟨.explain switches.text, switches.config⟩
  | ["help"] => .error .help
  | ["help", topic] => .error (if helpTopics.contains topic then .help else .wrong)
  | argument :: _ =>
    if argument = "--help" || argument = "--version" || isShortHelp argument
      || isShortVersion argument then .error .help
    else .error .wrong
  | [] => .error .wrong

end ColumnSelect.Command

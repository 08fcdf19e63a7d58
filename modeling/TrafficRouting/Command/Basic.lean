import TrafficRouting.Command.Arguments
import TrafficRouting.FileTree.Basic

/-!
# TrafficRouting.Command.Basic — what the program can be told to do

`Command.ofArguments` reads a command line: `[--config FILE] show`, `alter --delta FILE [--dry-run]`
or `watch`.
-/

namespace TrafficRouting

/-- What to do with the live rulebook. -/
inductive Action
  /-- Print it. -/
  | print
  /-- Apply the request in a file to it, or print only what would come out. -/
  | alter (request : FilePath) (dryRun : Bool)
  /-- Serve it, and follow edits of the settings file. -/
  | watch
deriving DecidableEq, Repr

/-- An action and the settings file it works with. -/
structure Command where
  settings : FilePath := .ofText "traffic-rule.toml"
  action : Action
deriving DecidableEq, Repr

/-- What help can be about. -/
inductive Topic
  | program
  | print
  | alter
  | watch
  | help
deriving DecidableEq, Repr

/-- The topic of a word. -/
def Topic.ofWord? : String → Option Topic
  | "show" => some print
  | "alter" => some alter
  | "watch" => some watch
  | "help" => some help
  | _ => none

/-- A help text of what something does, how it is called, and what it understands. -/
def helpText (about usage : String) (rest : List String) : String :=
  "\n".intercalate ([about, "", "Usage: " ++ usage] ++ rest) ++ "\n"

/-- The help on a topic. -/
def Topic.text : Topic → String
  | program =>
    helpText "Inspect and alter the proxy traffic rule" "traffic-rule [OPTIONS] <COMMAND>" [
      "",
      "Commands:",
      "  show   Print the active traffic rule",
      "  alter  Apply an alteration request",
      "  watch  Serve the rule and hot-reload the config file until Ctrl+C",
      "  help   Print this message or the help of the given subcommand(s)",
      "",
      "Options:",
      "  -c, --config <CONFIG>  Application config file [default: traffic-rule.toml]",
      "  -h, --help             Print help"]
  | print =>
    helpText "Print the active traffic rule" "traffic-rule show" [
      "",
      "Options:",
      "  -h, --help  Print help"]
  | alter =>
    helpText "Apply an alteration request" "traffic-rule alter [OPTIONS] --delta <DELTA>" [
      "",
      "Options:",
      "  -d, --delta <DELTA>  TOML document with a [[segments]] array",
      "      --dry-run        Print the resulting rule without publishing or persisting it",
      "  -h, --help           Print help"]
  | watch =>
    helpText "Serve the rule and hot-reload the config file until Ctrl+C" "traffic-rule watch" [
      "",
      "Options:",
      "  -h, --help  Print help"]
  | help =>
    helpText "Print this message or the help of the given subcommand(s)"
      "traffic-rule help [COMMAND]..." [
      "",
      "Arguments:",
      "  [COMMAND]...  Print help for the subcommand(s)"]

namespace Command

/-- Names the settings file. -/
def configSwitch : Switch := { long := "config", letter := some 'c' }

/-- Names the file of a request. -/
def deltaSwitch : Switch := { long := "delta", letter := some 'd' }

/-- Asks for the outcome alone. -/
def dryRunSwitch : Switch := { long := "dry-run", takesValue := false }

/-- Reads the switches of an action, behind which nothing may stand. -/
def readAll (topic : Topic) (switches : List Switch) (arguments : List String) :
    Except (Stop Topic) Given := do
  match ← readSwitches topic (switches ++ [.help]) {} arguments with
  | (g, []) => g.settle
  | (_, a :: _) => .error (.misuse (.unexpected a))

/-- Reads an action with its switches. -/
def readAction : List String → Except (Stop Topic) Action
  | [] => .error (.misuse (.missing "a subcommand"))
  | word :: rest =>
    match Topic.ofWord? word, rest with
    | some .print, _ => do
      let _ ← readAll .print [] rest
      return .print
    | some .alter, _ => do
      let g ← readAll .alter [deltaSwitch, dryRunSwitch] rest
      match g.values.get? deltaSwitch.long with
      | some path => return .alter (.ofText path) (g.values.contains dryRunSwitch.long)
      | none => .error (.misuse (.missing "--delta <DELTA>"))
    | some .watch, _ => do
      let _ ← readAll .watch [] rest
      return .watch
    | some .help, [] => .error (.help .program)
    | some .help, [word] =>
      match Topic.ofWord? word with
      | some topic => .error (.help topic)
      | none => .error (.misuse (.unexpected word))
    | some .help, _ :: a :: _ => .error (.misuse (.unexpected a))
    | _, _ => .error (.misuse (.unexpected word))

/-- Reads a command line. Help on an action is given before the value in front of it is checked. -/
def ofArguments (arguments : List String) : Except (Stop Topic) Command := do
  let (g, rest) ← readSwitches .program [configSwitch, .help] {} arguments
  let action ← readAction rest
  return match (← g.settle).values.get? configSwitch.long with
  | some path => ⟨.ofText path, action⟩
  | none => { action }

end Command

end TrafficRouting

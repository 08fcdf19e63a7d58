import Std.Async.Signal
import Std.Time.Format
import TrafficRouting.Alteration.Identifier
import TrafficRouting.Command.Run
import TrafficRouting.Watch

/-!
# TrafficRouting.Main — the program

Reads the files that a command works with, carries the command out, and writes what has changed.
-/

namespace TrafficRouting.Main

/-! ### Files -/

/-- The place of a location on the disk. -/
def diskPath (loc : Location) : String := "/" ++ "/".intercalate loc

/-- What the disk has at a location. -/
def nodeAt? (loc : Location) : IO (Option Node) := do
  let path := (← IO.currentDir) / diskPath loc
  if ← path.isDir then return some .directory
  else if ← path.pathExists then return some (.file (← IO.FS.readBinFile path))
  else return none

/-- Adds what the disk has along a path. -/
def scan (t : FileTree) (p : FilePath) : IO FileTree := do
  let mut t := t
  for stage in p.stages do
    match t.entrance stage with
    | .error _ => return t
    | .ok (dir, name) =>
      unless FileTree.isStanding name do
        match ← nodeAt? (dir ++ [name]) with
        | some node => t := { t with nodes := t.nodes.insert (dir ++ [name]) node }
        | none => return t
  return t

/-- The working directory with nothing in it. -/
def workingTree : IO FileTree := do
  let here := (FilePath.ofText (← IO.currentDir).toString).names.drop 1
  let above := (List.range here.length).map fun n => here.take (n + 1)
  return { nodes := .ofList (above.map fun loc => (loc, .directory)), here }

/-- Makes the disk follow a change of the tree. A file is written aside first. -/
def carryOver (old new : FileTree) : IO Unit := do
  for (loc, node) in new.nodes.entries do
    if old.nodes.get? loc ≠ some node then
      match node with
      | .directory => IO.FS.createDirAll (diskPath loc)
      | .file content =>
        let aside := diskPath loc ++ ".tmp"
        IO.FS.writeBinFile aside content
        IO.FS.rename aside (diskPath loc)

/-- The files that a command works with. -/
def commandFiles (c : Command) : IO FileTree := do
  let t ← scan (← workingTree) c.settings
  let t ← match (Settings.load t c.settings).toOption.bind Service.storePath? with
    | some store => scan t store
    | none => pure t
  match c.action with
  | .alter request _ => scan t request
  | _ => return t

/-! ### The log -/

/-- The time in the form of the log. -/
def now : IO String := do
  let time := Std.Time.PlainDateTime.ofWallTime ((← Std.Time.Timestamp.now).toWallTime .zero)
  return time.format "uuuu-MM-dd'T'HH:mm:ss.SSSSSS'Z'"

/-- Prints what a log shows of some entries. -/
def report (f : Log.Filter) (es : List Log.Entry) : IO Unit := do
  for line in Log.shown f (← now) es do
    IO.println line
  (← IO.getStdout).flush

/-! ### Commands -/

/-- Follows edits of the settings file until the task is finished. -/
partial def follow {α : Type} (f : Log.Filter) (files : FileTree) (ending : Task α) (w : Watch) :
    IO Watch := do
  if ← IO.hasFinished ending then return w
  IO.sleep 100
  let current ← scan files w.path
  if current.nodes = files.nodes then follow f files ending w
  else
    report f (Log.plain (w.editedEvents current))
    follow f current ending (w.edited current)

/-- Serves until the user ends it. -/
def serve (c : Command) (f : Log.Filter) (files : FileTree) (s : Service) : IO Unit := do
  report f (Log.plain (Watch.beginEvents c.settings s))
  let waiter ← Std.Async.Signal.Waiter.mk .sigint false
  let w ← follow f files (← waiter.wait) (.begin c.settings s)
  report f (Log.plain w.interruptedEvents)

/-- Carries out a command and yields the exit code. -/
def execute (c : Command) : IO UInt32 := do
  let environment ← IO.getEnv "RUST_LOG"
  let id := identifier (← IO.getRandomBytes 16).toList
  let files ← commandFiles c
  let run := c.run environment id files
  report run.filter run.log
  if let some w := run.warning then IO.eprintln ("Warning: " ++ w)
  carryOver files run.files
  IO.print run.output
  match run.failure with
  | some e => IO.eprintln ("Error: " ++ e.word?.elim "" (· ++ ": ") ++ e.message)
  | none =>
    if c.action = .watch then
      if let .ok s := (c.prepare environment files).service then serve c run.filter files s
  return run.code.toUInt32

/-- Carries out what the arguments ask for. -/
def run (arguments : List String) : IO UInt32 := do
  match Command.ofArguments arguments with
  | .ok c => execute c
  | .error (.help topic) =>
    IO.print topic.text
    return 0
  | .error (.misuse m) =>
    IO.eprintln ("error: " ++ m.message)
    return 2

end TrafficRouting.Main

def main (arguments : List String) : IO UInt32 := TrafficRouting.Main.run arguments

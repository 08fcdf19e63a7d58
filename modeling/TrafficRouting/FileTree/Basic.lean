import TrafficRouting.FileTree.Path
import TrafficRouting.OrdMap
import TrafficRouting.Text.Utf8

/-!
# TrafficRouting.FileTree.Basic — files and directories

A file tree maps locations to files and directories; a location is the list of the names that lead
to it from the top, and the top itself is a directory.

* `FileTree.walk`: follows names to a location.
* `FileTree.readText`: the text of a file.
* `makeDir`, `write`, `rename`: the changes, each of which may be refused.
-/

namespace TrafficRouting

/-- Why a file operation is refused. -/
inductive FileError
  | notFound
  | busy
  | exists
  | notDirectory
  | isDirectory
  | nameTooLong
  | zeroInPath
  | notText
  /-- The store cannot be reached at all. -/
  | unavailable
deriving DecidableEq, Repr

/-- The wording of a refusal. -/
def FileError.message : FileError → String
  | notFound => "No such file or directory (os error 2)"
  | busy => "Device or resource busy (os error 16)"
  | .exists => "File exists (os error 17)"
  | notDirectory => "Not a directory (os error 20)"
  | isDirectory => "Is a directory (os error 21)"
  | nameTooLong => "File name too long (os error 36)"
  | zeroInPath => "file name contained an unexpected NUL byte"
  | notText => "stream did not contain valid UTF-8"
  | unavailable => "metadata store unavailable"

/-- What is at a location. -/
inductive Node
  | file (content : ByteArray)
  | directory

/-- Files are the same if their bytes are. -/
instance : DecidableEq Node
  | .file a, .file b =>
    match ByteArray.instDecidableEq a b with
    | .isTrue h => .isTrue (congrArg Node.file h)
    | .isFalse h => .isFalse fun e => h (Node.file.inj e)
  | .file _, .directory => .isFalse nofun
  | .directory, .file _ => .isFalse nofun
  | .directory, .directory => .isTrue rfl

/-- A location: names from the top. -/
abbrev Location := List String

/-- Files and directories by location. The top is a directory and has no entry. -/
structure FileTree where
  nodes : OrdMap Location Node := {}
  /-- The working directory. -/
  here : Location := []

instance : Inhabited FileTree := ⟨{}⟩

/-! ### Following a path -/

/-- The longest name, in bytes. -/
def nameLimit : Nat := 255

/-- The longest path, in bytes, with the end mark. -/
def pathLimit : Nat := 4096

/-- What no path may be, whatever it leads to. -/
def FilePath.fault? (p : FilePath) : Option FileError :=
  if p.text.toList.contains '\x00' then some .zeroInPath
  else if pathLimit ≤ p.text.utf8ByteSize then some .nameTooLong
  else none

namespace FileTree

variable (t : FileTree)

/-- What is at a location. -/
def node? (loc : Location) : Option Node := if loc = [] then some .directory else t.nodes.get? loc

/-- One step from a location. Only directories can be left, also upwards. -/
def step (loc : Location) (name : String) : Except FileError Location :=
  if t.node? loc ≠ some .directory then .error .notDirectory
  else if name = topName then .ok []
  else if name = "." then .ok loc
  else if name = ".." then .ok loc.dropLast
  else if nameLimit < name.utf8ByteSize then .error .nameTooLong
  else if t.node? (loc ++ [name]) = none then .error .notFound
  else .ok (loc ++ [name])

/-- Follows names from a location. -/
def walk (loc : Location) : List String → Except FileError Location
  | [] => .ok loc
  | name :: rest => do walk (← t.step loc name) rest

/-- The location at the end of a path. -/
def locate (p : FilePath) : Except FileError Location :=
  match p.fault? with
  | some e => .error e
  | none => if p.steps = [] then .error .notFound else t.walk t.here p.steps

/-- The path leads somewhere. -/
def exists? (p : FilePath) : Bool := (t.locate p).toBool

/-- The path leads to a directory. -/
def isDirectory (p : FilePath) : Bool :=
  match t.locate p with
  | .ok loc => t.node? loc = some .directory
  | .error _ => false

/-- The bytes of a file. -/
def readBytes (p : FilePath) : Except FileError ByteArray := do
  let loc ← t.locate p
  match t.node? loc with
  | some (.file b) => .ok b
  | some .directory => .error .isDirectory
  | none => .error .notFound

/-- The text of a file. -/
def readText (p : FilePath) : Except FileError String := do
  match Text.decode? (← t.readBytes p) with
  | some s => .ok s
  | none => .error .notText

/-! ### Changes -/

/-- The directory that the last name of a path is in, and this name. -/
def entrance (p : FilePath) : Except FileError (Location × String) :=
  match p.fault?, p.names.getLast? with
  | some e, _ => .error e
  | none, some name => do
    let loc ← t.walk t.here p.names.dropLast
    if t.node? loc ≠ some .directory then .error .notDirectory
    else if nameLimit < name.utf8ByteSize then .error .nameTooLong
    else .ok (loc, name)
  | none, none => .error .notFound

/-- The name leads to a directory that there is in any case. -/
def isStanding (name : String) : Bool := name = "." || name = ".." || name = topName

/-- Makes a directory. -/
def makeDir (p : FilePath) : Except FileError FileTree := do
  let (loc, name) ← t.entrance p
  if isStanding name ∨ t.node? (loc ++ [name]) ≠ none then .error .exists
  else .ok { t with nodes := t.nodes.insert (loc ++ [name]) .directory }

/-- Writes a file, in place of an older one. -/
def write (p : FilePath) (content : ByteArray) : Except FileError FileTree := do
  let (loc, name) ← t.entrance p
  if isStanding name ∨ t.node? (loc ++ [name]) = some .directory then .error .isDirectory
  else .ok { t with nodes := t.nodes.insert (loc ++ [name]) (.file content) }

/-- Moves a file, in place of an older one at the target. -/
def rename (source target : FilePath) : Except FileError FileTree := do
  let (dir, name) ← t.entrance source
  let (targetDir, last) ← t.entrance target
  if isStanding last then .error .busy
  else match t.node? (dir ++ [name]) with
  | some (.file content) =>
    if target.endsInSlash then .error .notDirectory
    else if t.node? (targetDir ++ [last]) = some .directory then .error .isDirectory
    else
      let rest := t.nodes.restrict (· ≠ dir ++ [name])
      .ok { t with nodes := rest.insert (targetDir ++ [last]) (.file content) }
  | _ => .error .notFound

/-- Removes whatever is at a location and below it. -/
def remove (loc : Location) : FileTree :=
  { t with nodes := t.nodes.restrict fun l => !loc.isPrefixOf l }

/-! ### Listing -/

/-- One line for each node: its names with slashes, one more behind a directory, and the text of a
file. Lines are in the order of the names. -/
def listing : List (String × Option String) :=
  (t.nodes.entries.map fun e => match e.2 with
    | .file b => ("/".intercalate e.1, some (Text.decodeLossy b))
    | .directory => ("/".intercalate e.1 ++ "/", none)).mergeSort fun a b => decide (a.1 ≤ b.1)

end FileTree

end TrafficRouting

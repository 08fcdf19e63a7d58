import TrafficRouting.FileTree.Basic
import TrafficRouting.Log.Event
import TrafficRouting.Segment.Document
import TrafficRouting.Settings.Basic

/-!
# TrafficRouting.Settings.Load — settings and requests from files
-/

namespace TrafficRouting

/-- Why a file does not load. -/
inductive LoadError
  | io (e : FileError)
  | parse (e : Toml.DocumentError)
  | invalid (faults : List Fault)

/-- The wording of a load error. -/
def LoadError.message : LoadError → String
  | io e => "IO error: " ++ e.message
  | parse e => "Parse error: " ++ e.message
  | invalid fs => "Validation failed: " ++ faultLine fs

/-- Reads a document from a file. -/
def loadDocument {α : Type} (d : Toml.Decoder α) (t : FileTree) (path : FilePath) :
    Except LoadError α := do
  let s ← (t.readText path).mapError .io
  (Toml.decodeDocument d s).mapError .parse

/-- Settings that have no fault. -/
def Settings.load (t : FileTree) (path : FilePath) : Except LoadError Settings := do
  let s ← loadDocument Settings.decode t path
  if s.faults = [] then .ok s else .error (.invalid s.faults)

/-- What is reported when the types of settings are made known. -/
def Settings.typesEvent (s : Settings) : Log.Event :=
  .typesRegistered s.knownTypes.algorithms.toList.length s.knownTypes.loadBalancers.toList.length

/-- What is reported when settings are loaded: their types, once they have been read. -/
def Settings.loadEvents (t : FileTree) (path : FilePath) : List Log.Event :=
  match loadDocument Settings.decode t path with
  | .ok s => [s.typesEvent]
  | .error _ => []

/-- The segments of a request. -/
def loadRequest (t : FileTree) (path : FilePath) : Except LoadError (List Segment) :=
  loadDocument decodeRequest t path

end TrafficRouting

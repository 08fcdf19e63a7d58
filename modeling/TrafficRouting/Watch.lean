import TrafficRouting.ControlPlane

/-!
# TrafficRouting.Watch — serving a rulebook while its settings file is edited

A watch looks at the settings file whenever it changes, and sends settings without faults to the
reload loop; others are reported and leave the live rulebook as it is.

* `Watch.edited`: the file has changed.
* `Watch.interrupted`: the user ends the watch.
-/

namespace TrafficRouting

/-- A watched settings file and what is served meanwhile. -/
structure Watch where
  path : FilePath
  serving : Serving
deriving DecidableEq, Repr

namespace Watch

/-- A watch of the settings that a service has started with. -/
def begin (path : FilePath) (s : Service) : Watch where
  path
  serving := s.serving

/-- What is reported when a watch begins. -/
def beginEvents (path : FilePath) (s : Service) : List Log.Event :=
  [.watching path.text] ++
  (match Service.storePath? s.settings with
    | some store => [.storeRules store.text]
    | none => []) ++
  [.serving s.live.version]

/-- The settings that a change of the file delivers. -/
def delivered? (path : FilePath) (files : FileTree) : Option Settings :=
  (Settings.load files path).toOption

/-- What is reported when the file is looked at. -/
def lookEvents (path : FilePath) (files : FileTree) : List Log.Event :=
  .fileChanged path.text :: Settings.loadEvents files path ++
  match Settings.load files path with
  | .ok _ => []
  | .error e => [.reloadRejected e.message]

variable (w : Watch)

/-- The watch after the file has changed. -/
def edited (files : FileTree) : Watch :=
  match delivered? w.path files with
  | some s => { w with serving := (w.serving.update s.traffic).2 }
  | none => w

/-- What is reported when the file has changed. -/
def editedEvents (files : FileTree) : List Log.Event :=
  lookEvents w.path files ++
  match delivered? w.path files with
  | some s => w.serving.loop.receiveEvents s.traffic w.serving.live
  | none => []

/-- The watch after the user has ended it: the loop hears the bell. -/
def interrupted : Watch := { w with serving := w.serving.ring.2 }

/-- What is reported when the user ends the watch. -/
def interruptedEvents : List Log.Event :=
  [.interrupted, .shutdownTriggered w.serving.bell.listening, .reloadStopped, .stopped]

end Watch

end TrafficRouting

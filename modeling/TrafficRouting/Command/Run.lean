import TrafficRouting.Alteration.Json
import TrafficRouting.Command.Basic
import TrafficRouting.Log.Filter
import TrafficRouting.Rulebook.Json
import TrafficRouting.Service

/-!
# TrafficRouting.Command.Run — what a command leaves

* `Command.prepare`: reads the settings, opens the log, starts the service.
* `Command.run`: carries out a command; `Run` holds all that can be seen of it afterwards.
-/

namespace TrafficRouting

/-- Why a run fails. -/
inductive Failure
  | load (e : LoadError)
  /-- What the log shall show cannot be read. -/
  | tornFilter
  | start (e : StartError)
  | refused (e : Refusal)

namespace Failure

/-- The word for the kind of failure, if it has one. -/
def word? : Failure → Option String
  | load (.io _) => some "Io"
  | load (.parse _) => some "Parse"
  | load (.invalid _) => some "Validation"
  | tornFilter => none
  | start (.store _) => some "Persist"
  | start (.invalidStore _) => some "InvalidMetadata"
  | refused (.missingStrategies _) => some "MissingStrategy"
  | refused (.unknownTypes _) => some "InvalidAlgorithmConfiguration"

/-- The exit code. -/
def code : Failure → Nat
  | tornFilter => 101
  | _ => 1

/-- The wording. -/
def message : Failure → String
  | load e => e.message
  | tornFilter => "a log filter cannot be cut within a character"
  | start e => e.message
  | refused e => e.message

end Failure

/-- What a run leaves. -/
structure Run where
  /-- What was reported. -/
  log : List Log.Entry := []
  /-- Which of it the log shows. -/
  filter : Log.Filter
  /-- What was printed behind the log. -/
  output : String := ""
  warning : Option String := none
  failure : Option Failure := none
  files : FileTree

namespace Run

variable (r : Run)

/-- The exit code. -/
def code : Nat := r.failure.elim 0 Failure.code

/-- The lines of the log. -/
def lines (stamp : String) : List String := Log.shown r.filter stamp r.log

end Run

/-- A service that may have started, and the log up to then. -/
structure Prepared where
  log : List Log.Event := []
  filter : Log.Filter
  service : Except Failure Service

namespace Command

/-- Reads the settings and starts the service. Nothing is reported before the settings, which say
what the log shows, have been read; `environment` may ask for another filter. -/
def prepare (c : Command) (environment : Option String) (files : FileTree) : Prepared :=
  match Settings.load files c.settings with
  | .error e => { filter := .silent, service := .error (.load e) }
  | .ok s =>
    match Log.Filter.choose? environment s.observability.logLevel with
    | none => { filter := .silent, service := .error .tornFilter }
    | some filter => {
        log := .starting c.settings.text :: Service.startEvents s files
        filter
        service := (Service.start s files).mapError .start }

/-- A rulebook as it is printed. -/
def printed (r : Rulebook) : String := r.toJson.pretty ++ "\n"

/-- An applied alteration as it is printed. -/
def printedOutcome (id : String) (o : Outcome) (r : Rulebook) : String :=
  (Json.object [("outcome", o.toJson id), ("configuration", r.toJson)]).sorted.pretty ++ "\n"

/-- The warning about an alteration that is live but not kept. -/
def warning? : Persisted → Option String
  | .failed reason => some ("alteration is live but was not persisted: " ++ reason)
  | _ => none

/-- A run so far: what was reported before. -/
def begun (p : Prepared) (files : FileTree) : Run :=
  { log := Log.plain p.log, filter := p.filter, files }

/-- Shows what a request leads to. -/
def preview (s : Service) (segments : List Segment) (r : Run) : Run :=
  let r := { r with
    log := r.log ++ Log.plain (Alteration.previewEvents s.known s.live.rulebook segments) }
  match Alteration.preview s.known s.live.rulebook segments with
  | .ok rulebook => { r with output := printed rulebook }
  | .error e => { r with failure := some (.refused e) }

/-- Applies a request as the alteration with this identifier. -/
def execute (s : Service) (id : String) (segments : List Segment) (r : Run) : Run :=
  let before : Alteration.State FileTree := ⟨s.live, r.files⟩
  let events := Alteration.executeEvents s.known s.sink segments before
  let (answer, after) := Alteration.execute s.known s.sink segments before
  let r := { r with
    log := r.log ++ Log.within ⟨id, segments.length⟩ events
    files := after.store }
  match answer with
  | .ok o => { r with
      output := printedOutcome id o after.live.rulebook
      warning := warning? o.persisted }
  | .error e => { r with failure := some (.refused e) }

/-- Carries out an action on a service. Watching goes on afterwards, see `Watch`. -/
def act (id : String) (s : Service) (r : Run) : Action → Run
  | .print => { r with output := printed s.live.rulebook }
  | .alter path dryRun =>
    match loadRequest r.files path with
    | .error e => { r with failure := some (.load e) }
    | .ok segments => if dryRun then preview s segments r else execute s id segments r
  | .watch => r

/-- Carries out a command. An alteration gets the identifier `id`. -/
def run (c : Command) (environment : Option String) (id : String) (files : FileTree) : Run :=
  let p := c.prepare environment files
  match p.service with
  | .error e => { begun p files with failure := some e }
  | .ok s => act id s (begun p files) c.action

end Command

end TrafficRouting

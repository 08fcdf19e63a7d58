import TrafficRouting.Alteration
import TrafficRouting.Settings.Load

/-!
# TrafficRouting.Service — from settings to a live rulebook

`Service.start` takes the rulebook of the store if there is one, else the one of the settings.
-/

namespace TrafficRouting

/-- Why the program does not start. -/
inductive StartError
  | store (e : StoreError)
  | invalidStore (faults : List Fault)

/-- The wording of a start error. -/
def StartError.message : StartError → String
  | store e => "Metadata store unreadable: " ++ e.message
  | invalidStore fs => "Stored traffic rule is invalid: " ++ faultLine fs

/-- A running program: its settings, the live rulebook, the types it knows. -/
structure Service where
  settings : Settings
  live : Snapshot
  known : KnownTypes
deriving Repr

namespace Service

/-- The path of the store, if there is one. -/
def storePath? (s : Settings) : Option FilePath :=
  if s.persistence.enabled then some (.ofText s.persistence.path) else none

/-- What the store holds, if it holds a rulebook without faults. -/
def stored (s : Settings) (t : FileTree) : Except StartError (Option Rulebook) :=
  match storePath? s with
  | none => .ok none
  | some path => do
    match ← (Store.load path t).mapError .store with
    | none => .ok none
    | some r =>
      let fs := r.faults s.knownTypes
      if fs = [] then .ok (some r) else .error (.invalidStore fs)

/-- Starts from settings and files. -/
def start (s : Settings) (t : FileTree) : Except StartError Service := do
  let r := (← stored s t).getD s.traffic
  return ⟨s, .first r, s.knownTypes⟩

/-- What is reported on starting. -/
def startEvents (s : Settings) (t : FileTree) : List Log.Event :=
  s.typesEvent ::
  match stored s t with
  | .error _ => []
  | .ok (some r) => .loadedFromStore r.strategies.length :: r.danglingEvents
  | .ok none => .loadedFromSettings s.traffic.strategies.length :: s.traffic.danglingEvents

/-- The sink of the service: its store, if there is one. -/
def sink (s : Service) : Option (Sink FileTree) := (storePath? s.settings).map .file

end Service

end TrafficRouting

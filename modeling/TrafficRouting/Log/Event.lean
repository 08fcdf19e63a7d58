import TrafficRouting.Text.Quoted

/-!
# TrafficRouting.Log.Event — what the program reports while it runs

Each event has a level, a message and fields, and an origin: the part of the program that reports
it. Events that belong to an alteration stand in its scope, which has fields of its own.
-/

namespace TrafficRouting.Log

/-- How grave an event is. -/
inductive Level
  | error
  | warn
  | info
  | debug
  | trace
deriving DecidableEq, Repr

/-- Levels from the gravest. -/
def Level.rank : Level → Nat
  | error => 1
  | warn => 2
  | info => 3
  | debug => 4
  | trace => 5

/-- The level in five columns. -/
def Level.column : Level → String
  | error => "ERROR"
  | warn => " WARN"
  | info => " INFO"
  | debug => "DEBUG"
  | trace => "TRACE"

/-- Something that happened. -/
inductive Event
  | starting (config : String)
  | typesRegistered (algorithms loadBalancers : Nat)
  | loadedFromStore (strategies : Nat)
  | loadedFromSettings (strategies : Nat)
  | danglingAlgorithm (strategy key : String)
  | danglingBalancer (strategy key : String)
  | definitionsShadowed (keys : List String)
  | alterationRejected (kind : String) (names : List String)
  | rulePublished (previous version strategies : Nat)
  | storeWritten (path : String) (strategies : Nat)
  | storeFailed (reason : String)
  | watching (path : String)
  | storeRules (path : String)
  | serving (version : Nat)
  | fileChanged (path : String)
  | reloadRejected (reason : String)
  | sectionUnchanged
  | sectionIgnored (version : Nat)
  | reloaded (version : Nat)
  | interrupted
  | shutdownTriggered (listening : Nat)
  | reloadStopped
  | stopped
deriving DecidableEq, Repr

namespace Event

def level : Event → Level
  | storeFailed _ | reloadRejected _ => .error
  | danglingAlgorithm .. | danglingBalancer .. | definitionsShadowed _ => .warn
  | alterationRejected .. | sectionIgnored _ => .warn
  | typesRegistered .. | storeWritten .. | sectionUnchanged => .debug
  | _ => .info

def message : Event → String
  | starting _ => "traffic-rule v0.1.0 starting"
  | typesRegistered .. => "Algorithm types registered"
  | loadedFromStore _ => "Traffic rule loaded from metadata store"
  | loadedFromSettings _ => "Traffic rule loaded from config file"
  | danglingAlgorithm .. => "Strategy references unknown traffic algorithm"
  | danglingBalancer .. => "Strategy references unknown load balancer"
  | definitionsShadowed _ => "Alteration overwrites definitions shared with unaltered strategies"
  | alterationRejected .. => "Alteration rejected"
  | rulePublished .. => "Traffic rule published"
  | storeWritten .. => "Traffic rule metadata written"
  | storeFailed _ =>
    "Failed to persist traffic rule; " ++
      "in-memory rule stays active until the next successful alteration"
  | watching _ => "Config watcher started"
  | storeRules _ =>
    "Metadata store is authoritative; [traffic] edits in the config file are ignored"
  | serving _ => "Serving traffic rule"
  | fileChanged _ => "Config file change detected, reloading"
  | reloadRejected _ => "Rejected config reload; keeping current traffic rule"
  | sectionUnchanged => "Traffic section unchanged; nothing to publish"
  | sectionIgnored _ =>
    "Traffic section changed in config file; metadata store is authoritative, keeping live rule"
  | reloaded _ => "Traffic rule reloaded from config file"
  | interrupted => "Shutdown signal received"
  | shutdownTriggered _ => "Shutdown triggered"
  | reloadStopped => "Reload loop received shutdown signal"
  | stopped => "Shutdown complete"

/-- The part of the program that reports the event. -/
def origin : Event → String
  | starting _ | storeRules _ | serving _ | stopped => "traffic_rule"
  | typesRegistered .. => "traffic_rule::algorithm::registry"
  | loadedFromStore _ | loadedFromSettings _ => "traffic_rule::lifecycle::startup"
  | danglingAlgorithm .. | danglingBalancer .. => "traffic_rule::rule::traffic_rule"
  | definitionsShadowed _ | alterationRejected .. | storeFailed _ => "traffic_rule::alter::handler"
  | rulePublished .. => "traffic_rule::registry::snapshot"
  | storeWritten .. => "traffic_rule::persist::file"
  | watching _ | fileChanged _ | reloadRejected _ | sectionUnchanged | sectionIgnored _
  | reloaded _ | reloadStopped => "traffic_rule::config::watcher"
  | interrupted => "traffic_rule::lifecycle::signals"
  | shutdownTriggered _ => "traffic_rule::lifecycle::shutdown"

/-- The fields with their texts. -/
def fields : Event → List (String × String)
  | starting c => [("config", c)]
  | typesRegistered a b => [("algorithms", toString a), ("load_balancers", toString b)]
  | loadedFromStore n => [("strategies", toString n)]
  | loadedFromSettings n => [("strategies", toString n)]
  | danglingAlgorithm s k => [("strategy", s), ("algorithm", k)]
  | danglingBalancer s k => [("strategy", s), ("load_balancer", k)]
  | definitionsShadowed ks => [("keys", Text.quotedList ks)]
  | alterationRejected k ns => [("kind", Text.quoted k), ("names", Text.quotedList ns)]
  | rulePublished p v n =>
    [("previous_version", toString p), ("version", toString v), ("strategies", toString n)]
  | storeWritten p n => [("path", p), ("strategies", toString n)]
  | storeFailed r => [("error", r)]
  | watching p => [("path", p)]
  | storeRules p => [("store", p)]
  | serving v => [("version", toString v)]
  | fileChanged p => [("path", p)]
  | reloadRejected r => [("error", r)]
  | sectionIgnored v => [("version", toString v)]
  | reloaded v => [("version", toString v)]
  | shutdownTriggered n => [("listening", toString n)]
  | sectionUnchanged | interrupted | reloadStopped | stopped => []

/-- The event has a field of this name; the message is one, too. -/
def hasField (e : Event) (name : String) : Bool :=
  name = "message" || e.fields.any (·.1 = name)

end Event

/-- The alteration that events belong to. -/
structure Scope where
  id : String
  segments : Nat
deriving DecidableEq, Repr

/-- The value of a field of a scope. -/
inductive Datum
  | number (n : Nat)
  | text (s : String)
deriving DecidableEq, Repr

/-- The value as it is shown. -/
def Datum.shown : Datum → String
  | number n => toString n
  | text s => s

namespace Scope

/-- The name of every scope. -/
def name : String := "alter_traffic_rule"

/-- The part of the program that opens scopes. -/
def origin : String := "traffic_rule::alter::handler"

/-- How grave a scope counts. -/
def level : Level := .info

/-- The names of the fields of every scope. -/
def fieldNames : List String := ["alteration_id", "segments"]

/-- The values of the fields, in the order of their names. -/
def data (s : Scope) : List Datum := [.text s.id, .number s.segments]

/-- The fields with their values. -/
def fields (s : Scope) : List (String × Datum) := fieldNames.zip s.data

/-- The text that names the scope in front of a message. -/
def text (s : Scope) : String :=
  name ++ "\x7b" ++ " ".intercalate (s.fields.map fun f => f.1 ++ "=" ++ f.2.shown) ++ "\x7d: "

end Scope

/-- An event, perhaps within an alteration. -/
structure Entry where
  event : Event
  scope : Option Scope := none
deriving DecidableEq, Repr

/-- Events outside of any alteration. -/
def plain (es : List Event) : List Entry := es.map fun e => { event := e }

/-- Events within an alteration. -/
def within (s : Scope) (es : List Event) : List Entry := es.map fun e => ⟨e, some s⟩

end TrafficRouting.Log

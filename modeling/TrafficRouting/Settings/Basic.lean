import TrafficRouting.Fault
import TrafficRouting.Rulebook.Document
import TrafficRouting.SocketAddress

/-!
# TrafficRouting.Settings.Basic — what the settings file says

* `Settings.decode`: reads settings from a table; everything has a default.
* `Settings.knownTypes`: the types that the settings make known.
* `Settings.faults`: everything that is wrong with them.
-/

namespace TrafficRouting

open Toml

/-- What the program shows of itself. -/
structure Observability where
  logLevel : String := "info"
  metricsEnabled : Bool := false
  metricsAddress : String := "0.0.0.0:9090"
deriving DecidableEq, Repr

/-- Types to make known besides the built-in ones. -/
structure ExtraTypes where
  algorithms : List String := []
  loadBalancers : List String := []
deriving DecidableEq, Repr

/-- Whether and where alterations are kept. -/
structure Persistence where
  enabled : Bool := false
  path : String := "metadata/traffic_rule.toml"
deriving DecidableEq, Repr

/-- All settings. -/
structure Settings where
  observability : Observability := {}
  extraTypes : ExtraTypes := {}
  persistence : Persistence := {}
  /-- The rulebook to start from when the store holds none. -/
  traffic : Rulebook := {}
deriving DecidableEq, Repr

/-! ### Reading -/

def Observability.decode : Decoder Observability :=
  record "ObservabilityConfig" {} [
    .may "log_level" text fun l o => { o with logLevel := l },
    .may "metrics_enabled" flag fun b o => { o with metricsEnabled := b },
    .may "metrics_address" text fun a o => { o with metricsAddress := a }]

def ExtraTypes.decode : Decoder ExtraTypes :=
  record "AlgorithmTypesConfig" {} [
    .may "algorithms" (list text) fun a t => { t with algorithms := a },
    .may "load_balancers" (list text) fun b t => { t with loadBalancers := b }]

def Persistence.decode : Decoder Persistence :=
  record "PersistenceConfig" {} [
    .may "enabled" flag fun b p => { p with enabled := b },
    .may "path" text fun s p => { p with path := s }]

namespace Settings

def decode : Decoder Settings :=
  record "AppConfig" {} [
    .may "observability" Observability.decode fun o s => { s with observability := o },
    .may "algorithm_types" ExtraTypes.decode fun t s => { s with extraTypes := t },
    .may "persistence" Persistence.decode fun p s => { s with persistence := p },
    .may "traffic" Rulebook.decode fun r s => { s with traffic := r }]

/-! ### Checking -/

variable (s : Settings)

/-- The built-in types and the extra ones. -/
def knownTypes : KnownTypes :=
  KnownTypes.builtin.addAll s.extraTypes.algorithms s.extraTypes.loadBalancers

/-- A store needs a path. -/
def storeFaults : List Fault :=
  if s.persistence.enabled ∧ Text.blank s.persistence.path then [.emptyStorePath] else []

/-- Metrics need an address. -/
def metricsFaults : List Fault :=
  if s.observability.metricsEnabled ∧ ¬isSocketAddress s.observability.metricsAddress then
    [.badMetricsAddress s.observability.metricsAddress]
  else []

/-- Everything that is wrong with the settings: first their rulebook, then the store, then
metrics. -/
def faults : List Fault := s.traffic.faults s.knownTypes ++ s.storeFaults ++ s.metricsFaults

end Settings

end TrafficRouting

import TrafficRouting.Rulebook.Basic
import TrafficRouting.Toml.Decode
import TrafficRouting.Toml.Printer

/-!
# TrafficRouting.Rulebook.Document — rulebooks as TOML documents

* `Rulebook.decode`: reads a rulebook from a table.
* `Rulebook.blocks`: writes one, below a path of keys.
* `Rulebook.toToml`: the whole document.
-/

namespace TrafficRouting

open Toml

/-- A definition, which names its type under `key`. -/
def definitionSlots (key : String) : List (Slot Definition) := [
  .need key text fun t d => { d with type := t },
  .may "props" (dict text) fun p d => { d with props := p }]

/-- A definition of a rulebook. -/
def Definition.decode : Decoder Definition :=
  record "AlgorithmConfig" default (definitionSlots "type")

def Strategy.slots : List (Slot Strategy) := [
  .need "name" text fun n s => { s with name := n },
  .need "algorithm_name" text fun a s => { s with algorithm := a },
  .may "load_balancer_name" text fun b s => { s with loadBalancer := some b },
  .may "labels" names fun l s => { s with labels := l }]

def Strategy.decode : Decoder Strategy := record "StrategyConfig" default Strategy.slots

namespace Rulebook

def slots : List (Slot Rulebook) := [
  .may "strategies" (list Strategy.decode) fun s r => { r with strategies := s },
  .may "algorithms" (dict Definition.decode) fun a r => { r with algorithms := a },
  .may "load_balancers" (dict Definition.decode) fun b r => { r with loadBalancers := b }]

def decode : Decoder Rulebook := record "TrafficRuleConfig" {} slots

end Rulebook

/-! ### Writing -/

/-- The pairs of a strategy. A load balancer that is not named is left out. -/
def Strategy.pairs (s : Strategy) : List (String × Content) :=
  [("name", .text s.name), ("algorithm_name", .text s.algorithm)] ++
  (match s.loadBalancer with
    | some b => [("load_balancer_name", .text b)]
    | none => []) ++
  [("labels", .texts s.labels.toList)]

/-- The blocks of a definition below a path. -/
def Definition.blocks (path : List String) (d : Definition) : List Block := [
  ⟨some (.single, path), [("type", .text d.type)]⟩,
  ⟨some (.single, path ++ ["props"]), d.props.entries.map fun e => (e.1, .text e.2)⟩]

/-- The blocks of a dictionary of definitions; an empty one has a header. -/
def definitionBlocks (path : List String) (ds : Dict Definition) : List Block :=
  if ds.entries = [] then [⟨some (.single, path), []⟩]
  else ds.entries.flatMap fun e => e.2.blocks (path ++ [e.1])

namespace Rulebook

/-- The blocks of a rulebook below a path. Without strategies an empty array says so. -/
def blocks (path : List String) (r : Rulebook) : List Block :=
  (if r.strategies = [] then
    [⟨if path = [] then none else some (.single, path), [("strategies", .texts [])]⟩]
  else r.strategies.map fun s => ⟨some (.repeated, path ++ ["strategies"]), s.pairs⟩) ++
  definitionBlocks (path ++ ["algorithms"]) r.algorithms ++
  definitionBlocks (path ++ ["load_balancers"]) r.loadBalancers

/-- The rulebook as a document, below a path. -/
def toToml (layout : Layout) (path : List String) (r : Rulebook) : String :=
  .ofList (Toml.write layout (r.blocks path))

end Rulebook

end TrafficRouting

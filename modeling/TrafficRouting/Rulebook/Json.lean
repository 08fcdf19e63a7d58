import TrafficRouting.Json
import TrafficRouting.Rulebook.Basic

/-!
# TrafficRouting.Rulebook.Json — rulebooks as JSON
-/

namespace TrafficRouting

def Definition.toJson (d : Definition) : Json :=
  .object [("type", .string d.type),
    ("props", .object (d.props.entries.map fun e => (e.1, .string e.2)))]

/-- A strategy. A load balancer that is not named is left out. -/
def Strategy.toJson (s : Strategy) : Json :=
  .object <|
    [("name", .string s.name), ("algorithm_name", .string s.algorithm)] ++
    (match s.loadBalancer with
      | some b => [("load_balancer_name", .string b)]
      | none => []) ++
    [("labels", .array (s.labels.toList.map .string))]

/-- A dictionary of definitions. -/
def definitionsToJson (ds : Dict Definition) : Json :=
  .object (ds.entries.map fun e => (e.1, e.2.toJson))

def Rulebook.toJson (r : Rulebook) : Json :=
  .object [("strategies", .array (r.strategies.map (·.toJson))),
    ("algorithms", definitionsToJson r.algorithms),
    ("load_balancers", definitionsToJson r.loadBalancers)]

end TrafficRouting

import TrafficRouting.Rulebook.Basic
import TrafficRouting.Text.Casing

/-!
# TrafficRouting.Segment.Basic — what a request asks for one strategy

A request is a list of segments. Each gives a strategy new labels, a new algorithm, and a new load
balancer or none. `delta` writes a request as a rulebook whose definitions have derived keys.
-/

namespace TrafficRouting

/-- The request for one strategy. -/
structure Segment where
  name : String
  labels : NameSet := {}
  algorithm : Definition
  loadBalancer : Option Definition := none
deriving DecidableEq, Repr, Inhabited

/-- The key under which a definition that a strategy asks for is kept: the name of the strategy and
the type of the definition, in lower case. -/
def derivedKey (strategy type : String) : String := Text.lower (strategy ++ "_" ++ type)

namespace Segment

variable (s : Segment)

/-- The key of the algorithm asked for. -/
def algorithmKey : String := derivedKey s.name s.algorithm.type

/-- The key of the load balancer asked for, if any. -/
def balancerKey? : Option String := s.loadBalancer.map (derivedKey s.name ·.type)

/-- The strategy that refers to the derived keys. -/
def strategy : Strategy where
  name := s.name
  algorithm := s.algorithmKey
  loadBalancer := s.balancerKey?
  labels := s.labels

end Segment

/-- The definitions and strategies of a request so far, strategies by name. -/
structure Draft where
  strategies : Dict Strategy := {}
  algorithms : Dict Definition := {}
  loadBalancers : Dict Definition := {}

/-- Adds what a segment asks for; a later segment of a name takes the place of the earlier one. -/
def Draft.add (d : Draft) (s : Segment) : Draft where
  strategies := d.strategies.insert s.name s.strategy
  algorithms := d.algorithms.insert s.algorithmKey s.algorithm
  loadBalancers := match s.loadBalancer with
    | some b => d.loadBalancers.insert (derivedKey s.name b.type) b
    | none => d.loadBalancers

/-- The request as a rulebook. -/
def delta (segments : List Segment) : Rulebook :=
  let d := segments.foldl Draft.add {}
  { strategies := d.strategies.entries.map Prod.snd
    algorithms := d.algorithms
    loadBalancers := d.loadBalancers }

end TrafficRouting

import TrafficRouting.OrdMap
import TrafficRouting.NameSet

/-!
# TrafficRouting.Rulebook.Basic — strategies and the definitions they refer to

A rulebook lists strategies. A strategy names an algorithm definition, may name a load balancer
definition, and carries labels. Both kinds of definition live in a dictionary of their own, so
that strategies can share them.
-/

namespace TrafficRouting

/-- An algorithm or load balancer: its type and its properties. -/
structure Definition where
  type : String
  props : Dict String := {}
deriving DecidableEq, Repr, Inhabited

/-- A strategy as it is written down. -/
structure Strategy where
  name : String
  /-- The key of its algorithm definition. -/
  algorithm : String
  /-- The key of its load balancer definition, as written; an empty one refers to nothing. -/
  loadBalancer : Option String := none
  labels : NameSet := {}
deriving DecidableEq, Repr, Inhabited

/-- The key of the load balancer that the strategy refers to, if it refers to one. -/
def Strategy.balancer? (s : Strategy) : Option String := s.loadBalancer.filter (· ≠ "")

/-- Strategies with the definitions they refer to. -/
structure Rulebook where
  strategies : List Strategy := []
  algorithms : Dict Definition := {}
  loadBalancers : Dict Definition := {}
deriving DecidableEq, Repr, Inhabited

namespace Rulebook

variable (r : Rulebook)

/-- The first strategy of a name. -/
def strategy? (name : String) : Option Strategy := r.strategies.find? (·.name = name)

/-- The distinct names of the strategies, in order. -/
def names : NameSet := .ofList (r.strategies.map (·.name))

/-- The distinct load balancer keys that strategies refer to, in order. -/
def balancersInUse : NameSet := .ofList (r.strategies.filterMap (·.balancer?))

end Rulebook

end TrafficRouting

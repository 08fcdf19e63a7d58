import TrafficRouting.Rulebook.Basic

/-!
# TrafficRouting.Rulebook.Merge — a rulebook altered by another one

* `merge`: the strategies of the delta replace those of the same names; its definitions are laid
  over the current ones; load balancers that no strategy refers to any more are dropped.
* `shadowed`: the keys whose definitions change under strategies that the delta does not mention.
-/

namespace TrafficRouting.Rulebook

/-- The strategies whose names the delta does not mention. -/
def untouched (current delta : Rulebook) : List Strategy :=
  current.strategies.filter fun s => decide (s.name ∉ delta.names)

/-- Keeps the load balancers that strategies refer to. -/
def dropUnused (r : Rulebook) : Rulebook :=
  { r with loadBalancers := r.loadBalancers.restrict fun k => decide (k ∈ r.balancersInUse) }

/-- The current rulebook with the delta applied. -/
def merge (current delta : Rulebook) : Rulebook :=
  dropUnused {
    strategies := current.untouched delta ++ delta.strategies
    algorithms := current.algorithms.overlay delta.algorithms
    loadBalancers := current.loadBalancers.overlay delta.loadBalancers }

/-- The keys that untouched strategies refer to, of either role. -/
def untouchedKeys (current delta : Rulebook) : NameSet :=
  .ofList <| (current.untouched delta).flatMap fun s => s.algorithm :: s.balancer?.toList

/-- The keys that the delta defines and untouched strategies refer to: algorithms first. -/
def shadowed (current delta : Rulebook) : List String :=
  (delta.algorithms.keys ++ delta.loadBalancers.keys).filter
    fun k => decide (k ∈ current.untouchedKeys delta)

end TrafficRouting.Rulebook

import TrafficRouting.KnownTypes
import TrafficRouting.Rulebook.Basic

/-!
# TrafficRouting.Fault — what can be wrong with a rulebook or with settings

`Rulebook.faults` lists every fault of a rulebook: per strategy its name, its algorithm and its load
balancer, then load balancers nobody refers to, then types that are not known.
-/

namespace TrafficRouting

/-- One thing that is wrong. -/
inductive Fault
  | duplicateStrategy (name : String)
  | unknownAlgorithm (strategy key : String)
  | unknownBalancer (strategy key : String)
  | orphanBalancer (key : String)
  | unknownAlgorithmType (key type : String)
  | unknownBalancerType (key type : String)
  | emptyStorePath
  | badMetricsAddress (address : String)
deriving DecidableEq, Repr

/-- The wording of a fault. -/
def Fault.message : Fault → String
  | duplicateStrategy n => s!"duplicate strategy name '{n}'"
  | unknownAlgorithm s k => s!"strategy '{s}' references unknown algorithm '{k}'"
  | unknownBalancer s k => s!"strategy '{s}' references unknown load balancer '{k}'"
  | orphanBalancer k => s!"load balancer '{k}' is not referenced by any strategy"
  | unknownAlgorithmType k t => s!"algorithm '{k}' has unregistered type '{t}'"
  | unknownBalancerType k t => s!"load balancer '{k}' has unregistered type '{t}'"
  | emptyStorePath => "persistence.path must not be empty"
  | badMetricsAddress a => s!"invalid metrics address '{a}'"

/-- The wordings of faults in one line. -/
def faultLine (fs : List Fault) : String := ", ".intercalate (fs.map (·.message))

namespace Rulebook

variable (r : Rulebook)

/-- The faults of one strategy; `seen` holds the names before it. -/
def strategyFaults (seen : List String) (s : Strategy) : List Fault :=
  (if s.name ∈ seen then [.duplicateStrategy s.name] else []) ++
  (if r.algorithms.contains s.algorithm then [] else [.unknownAlgorithm s.name s.algorithm]) ++
  match s.balancer? with
  | some k => if r.loadBalancers.contains k then [] else [.unknownBalancer s.name k]
  | none => []

/-- The faults of strategies in order; `seen` holds the names before them. -/
def strategiesFaults (seen : List String) : List Strategy → List Fault
  | [] => []
  | s :: rest => r.strategyFaults seen s ++ strategiesFaults (s.name :: seen) rest

/-- Load balancers that no strategy refers to. -/
def orphanFaults : List Fault :=
  (r.loadBalancers.keys.filter fun k => decide (k ∉ r.balancersInUse)).map .orphanBalancer

/-- Definitions whose type is not known in their role. -/
def typeFaults (known : KnownTypes) : List Fault :=
  (r.algorithms.entries.filter fun e => !known.hasAlgorithm e.2.type).map
    (fun e => .unknownAlgorithmType e.1 e.2.type) ++
  (r.loadBalancers.entries.filter fun e => !known.hasLoadBalancer e.2.type).map
    (fun e => .unknownBalancerType e.1 e.2.type)

/-- Everything that is wrong with a rulebook. -/
def faults (known : KnownTypes) : List Fault :=
  r.strategiesFaults [] r.strategies ++ r.orphanFaults ++ r.typeFaults known

end Rulebook

end TrafficRouting

import TrafficRouting.NameSet
import TrafficRouting.Text.Blank
import TrafficRouting.Text.Casing

/-!
# TrafficRouting.KnownTypes — the types that definitions may have

Algorithms and load balancers have type names of their own. A type is known by its normal form:
without white space at its ends and in upper case.
-/

namespace TrafficRouting

/-- The form by which a type is known. -/
def normalType (t : String) : String := Text.upper (Text.trim t)

/-- The known types, in normal form. -/
structure KnownTypes where
  algorithms : NameSet := {}
  loadBalancers : NameSet := {}
deriving DecidableEq, Repr

namespace KnownTypes

variable (k : KnownTypes)

/-- Makes an algorithm type known. -/
def addAlgorithm (t : String) : KnownTypes :=
  { k with algorithms := k.algorithms.insert (normalType t) }

/-- Makes a load balancer type known. -/
def addLoadBalancer (t : String) : KnownTypes :=
  { k with loadBalancers := k.loadBalancers.insert (normalType t) }

/-- Makes several types of both roles known. -/
def addAll (algorithms loadBalancers : List String) : KnownTypes :=
  loadBalancers.foldl addLoadBalancer (algorithms.foldl addAlgorithm k)

/-- The algorithm type is known. -/
def hasAlgorithm (t : String) : Bool := normalType t ∈ k.algorithms

/-- The load balancer type is known. -/
def hasLoadBalancer (t : String) : Bool := normalType t ∈ k.loadBalancers

/-- The types that need no registration. -/
def builtin : KnownTypes :=
  ({} : KnownTypes).addAll
    ["SQL_MATCH", "SQL_REGEX", "SQL_HINT", "FIRST_SQL", "TRANSACTION", "JDBC", "PROXY"]
    ["RANDOM", "ROUND_ROBIN"]

end KnownTypes

end TrafficRouting

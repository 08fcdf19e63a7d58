import TrafficRouting.Rulebook.Basic

/-!
# TrafficRouting.Rulebook.Same — rulebooks that say the same

Two rulebooks say the same if they differ at most in the order of dictionary entries and labels.
The order of the strategies counts.
-/

namespace TrafficRouting

/-- Same type, same properties. -/
def Definition.same (a b : Definition) : Bool := a.type = b.type && a.props.same (· = ·) b.props

/-- Same fields, with labels in any order. -/
def Strategy.same (a b : Strategy) : Bool :=
  a.name = b.name && a.algorithm = b.algorithm && a.loadBalancer = b.loadBalancer &&
    a.labels.same b.labels

/-- The lists agree element by element. -/
def sameList {α : Type} (eq : α → α → Bool) : List α → List α → Bool
  | [], [] => true
  | a :: as, b :: bs => eq a b && sameList eq as bs
  | _, _ => false

/-- Same strategies in order, same definitions in any order. -/
def Rulebook.same (a b : Rulebook) : Bool :=
  sameList Strategy.same a.strategies b.strategies &&
    a.algorithms.same Definition.same b.algorithms &&
    a.loadBalancers.same Definition.same b.loadBalancers

end TrafficRouting

import TrafficRouting.Rulebook.Basic

/-!
# TrafficRouting.Rulebook.Resolution — strategies with their definitions at hand

A resolution is what requests are routed by: every strategy of a rulebook with the definitions it
refers to, and for every label the places of the strategies that carry it.
-/

namespace TrafficRouting

/-- A strategy with its definitions in place of their keys. -/
structure Resolved where
  name : String
  labels : NameSet
  algorithm : Option Definition
  loadBalancer : Option Definition
deriving DecidableEq, Repr

/-- Looks up what the strategy refers to. -/
def Strategy.resolve (s : Strategy) (r : Rulebook) : Resolved where
  name := s.name
  labels := s.labels
  algorithm := r.algorithms.get? s.algorithm
  loadBalancer := s.balancer?.bind r.loadBalancers.get?

/-- Resolved strategies and an index from labels to their places. -/
structure Resolution where
  rules : List Resolved := []
  /-- For each label the places in `rules` that carry it, in increasing order. -/
  places : Dict (List Nat) := {}
deriving DecidableEq, Repr

namespace Resolution

/-- Notes the place `i` under a label. -/
def addPlace (i : Nat) (places : Dict (List Nat)) (label : String) : Dict (List Nat) :=
  places.insert label ((places.get? label).getD [] ++ [i])

/-- Adds a rule at the end and notes its place under each of its labels. -/
def push (res : Resolution) (rule : Resolved) : Resolution where
  rules := res.rules ++ [rule]
  places := rule.labels.toList.foldl (addPlace res.rules.length) res.places

/-- Resolves every strategy of a rulebook in order. -/
def ofRulebook (r : Rulebook) : Resolution :=
  r.strategies.foldl (fun res s => res.push (s.resolve r)) {}

variable (res : Resolution)

/-- The first rule of a name. -/
def rule? (name : String) : Option Resolved := res.rules.find? (·.name = name)

/-- The rules that carry a label, in order. -/
def withLabel (label : String) : List Resolved :=
  ((res.places.get? label).getD []).filterMap (res.rules[·]?)

end Resolution

end TrafficRouting

import TrafficRouting.Log.Event
import TrafficRouting.Rulebook.Resolution

/-!
# TrafficRouting.Snapshot — the live rulebook and its versions

A snapshot is what is live at one time: a rulebook, its resolution, and a version. Publishing makes
the next one; a reader that holds an older one is not affected.
-/

namespace TrafficRouting

/-- A rulebook with its resolution, numbered. -/
structure Snapshot where
  version : Nat
  rulebook : Rulebook
  resolution : Resolution
deriving DecidableEq, Repr

/-- The reports of references that lead nowhere, strategy by strategy. -/
def Rulebook.danglingEvents (r : Rulebook) : List Log.Event :=
  r.strategies.flatMap fun s =>
    (if r.algorithms.contains s.algorithm then [] else [.danglingAlgorithm s.name s.algorithm]) ++
    match s.balancer? with
    | some k => if r.loadBalancers.contains k then [] else [.danglingBalancer s.name k]
    | none => []

namespace Snapshot

/-- A snapshot of a rulebook. -/
def ofRulebook (version : Nat) (r : Rulebook) : Snapshot := ⟨version, r, .ofRulebook r⟩

/-- The first snapshot. -/
def first (r : Rulebook) : Snapshot := ofRulebook 1 r

/-- The snapshot that follows when a rulebook is published. -/
def publish (s : Snapshot) (r : Rulebook) : Snapshot := ofRulebook (s.version + 1) r

/-- What is reported when a rulebook is published. -/
def publishEvents (s : Snapshot) (r : Rulebook) : List Log.Event :=
  r.danglingEvents ++ [.rulePublished s.version (s.version + 1) r.strategies.length]

end Snapshot

end TrafficRouting

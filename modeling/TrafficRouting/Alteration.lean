import TrafficRouting.KnownTypes
import TrafficRouting.Rulebook.Merge
import TrafficRouting.Segment.Basic
import TrafficRouting.Snapshot
import TrafficRouting.Store

/-!
# TrafficRouting.Alteration — requests against the live rulebook

* `check`: a request may mention only strategies that there are and types that are known.
* `preview`: the rulebook that a request leads to.
* `execute`: publishes it, then writes it to the store. What is published stays live even if the
  store refuses it.
-/

namespace TrafficRouting

/-- Why a request is refused. -/
inductive Refusal
  | missingStrategies (names : List String)
  | unknownTypes (types : List String)
deriving DecidableEq, Repr

namespace Refusal

/-- The word for the reason. -/
def kind : Refusal → String
  | missingStrategies _ => "missing_strategy"
  | unknownTypes _ => "invalid_algorithm"

/-- The names that are at fault. -/
def names : Refusal → List String
  | missingStrategies ns => ns
  | unknownTypes ts => ts

/-- The wording. -/
def message : Refusal → String
  | missingStrategies ns => "Traffic rule(s) do not exist: " ++ ", ".intercalate ns
  | unknownTypes ts => "Invalid traffic algorithm configuration: " ++ ", ".intercalate ts

end Refusal

/-- How the store took an alteration. -/
inductive Persisted
  | skipped
  | written
  | failed (reason : String)
deriving DecidableEq, Repr

/-- The result of an accepted request. -/
structure Outcome where
  version : Nat
  strategies : Nat
  persisted : Persisted
deriving DecidableEq, Repr

namespace Alteration

/-- The mentioned strategies that there are not, by first mention. -/
def missing (current : Rulebook) (segments : List Segment) : List String :=
  (NameSet.ofList ((segments.map (·.name)).filter fun n => decide (n ∉ current.names))).toList

/-- The types of a segment that are not known in their role. -/
def unknownTypesOf (known : KnownTypes) (s : Segment) : List String :=
  (if known.hasAlgorithm s.algorithm.type then [] else [s.algorithm.type]) ++
  match s.loadBalancer with
  | some b => if known.hasLoadBalancer b.type then [] else [b.type]
  | none => []

/-- The mentioned types that are not known, as written, by first mention. -/
def unknownTypes (known : KnownTypes) (segments : List Segment) : List String :=
  (NameSet.ofList (segments.flatMap (unknownTypesOf known))).toList

/-- Refuses a request with missing strategies, or else one with unknown types. -/
def check (known : KnownTypes) (current : Rulebook) (segments : List Segment) :
    Except Refusal Unit :=
  if missing current segments ≠ [] then .error (.missingStrategies (missing current segments))
  else if unknownTypes known segments ≠ [] then .error (.unknownTypes (unknownTypes known segments))
  else .ok ()

/-- The rulebook that a request leads to. -/
def preview (known : KnownTypes) (current : Rulebook) (segments : List Segment) :
    Except Refusal Rulebook := do
  check known current segments
  return current.merge (delta segments)

/-- What is reported while a request is looked through. -/
def previewEvents (known : KnownTypes) (current : Rulebook) (segments : List Segment) :
    List Log.Event :=
  match check known current segments with
  | .ok () =>
    let keys := current.shadowed (delta segments)
    if keys = [] then [] else [.definitionsShadowed keys]
  | .error _ => []

/-- A live rulebook with the contents of its store. -/
structure State (σ : Type) where
  live : Snapshot
  store : σ

/-- How the answer of a sink is told. -/
def persisted : Except StoreError Unit → Persisted
  | .ok () => .written
  | .error e => .failed e.message

/-- Writes a rulebook to the sink, if there is one. -/
def keep {σ : Type} (sink : Option (Sink σ)) (r : Rulebook) (store : σ) : Persisted × σ :=
  match sink with
  | none => (.skipped, store)
  | some k => let w := k.write r true store; (persisted w.1, w.2)

/-- What is reported when a rulebook has been written. -/
def keepEvents {σ : Type} (sink : Option (Sink σ)) (r : Rulebook) : Persisted → List Log.Event
  | .skipped => []
  | .written => match sink.bind (·.path?) with
    | some p => [.storeWritten p.text r.strategies.length]
    | none => []
  | .failed reason => [.storeFailed reason]

/-- Applies a request: a refused one changes nothing; an accepted one is published and then kept. -/
def execute {σ : Type} (known : KnownTypes) (sink : Option (Sink σ)) (segments : List Segment)
    (st : State σ) : Except Refusal Outcome × State σ :=
  match preview known st.live.rulebook segments with
  | .error e => (.error e, st)
  | .ok r =>
    let live := st.live.publish r
    let kept := keep sink r st.store
    (.ok ⟨live.version, r.strategies.length, kept.1⟩, ⟨live, kept.2⟩)

/-- What is reported when a request is applied. -/
def executeEvents {σ : Type} (known : KnownTypes) (sink : Option (Sink σ)) (segments : List Segment)
    (st : State σ) : List Log.Event :=
  previewEvents known st.live.rulebook segments ++
  match preview known st.live.rulebook segments with
  | .error e => [.alterationRejected e.kind e.names]
  | .ok r => st.live.publishEvents r ++ keepEvents sink r (keep sink r st.store).1

end Alteration

end TrafficRouting

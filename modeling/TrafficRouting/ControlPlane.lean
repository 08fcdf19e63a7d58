import TrafficRouting.Service
import TrafficRouting.Serving

/-!
# TrafficRouting.ControlPlane — all that can happen to the live rulebook

A control plane holds the live rulebook with its reload loop, the known types, and what has been
stored. It carries out operations one after the other, each as a whole.

* `ControlPlane.apply`: one operation, with its answer.
* `ControlPlane.run`: several of them.
-/

namespace TrafficRouting

/-- What a control plane can be asked to do. -/
inductive Operation
  /-- Apply a request. -/
  | execute (segments : List Segment)
  /-- Tell what a request would lead to. -/
  | preview (segments : List Segment)
  /-- Make a rulebook live. -/
  | publish (rulebook : Rulebook)
  /-- Make types known. -/
  | register (algorithms loadBalancers : List String)
  /-- Hand the rulebook of edited settings to the reload loop. -/
  | reload (rulebook : Rulebook)
  /-- Ring the bell of the reload loop. -/
  | ring
  /-- Take the bell away. -/
  | dropBell
  /-- Let no more settings come. -/
  | close
deriving DecidableEq, Repr

/-- What a control plane answers. -/
inductive Answer
  | executed (result : Except Refusal Outcome)
  | previewed (result : Except Refusal Rulebook)
  /-- Whether anybody received the rulebook. -/
  | handed (received : Bool)
  /-- How many heard the bell; nothing if there is none. -/
  | rung (listeners : Option Nat)
  | done

/-- A control plane whose store has contents in `σ`. -/
structure ControlPlane (σ : Type) where
  known : KnownTypes
  sink : Option (Sink σ) := none
  store : σ
  serving : Serving

namespace ControlPlane

variable {σ : Type} (p : ControlPlane σ)

/-- The live rulebook. -/
def live : Snapshot := p.serving.live

/-- Begins with a rulebook, which is also the one that the reload loop has seen. -/
def begin (known : KnownTypes) (sink : Option (Sink σ)) (store : σ) (r : Rulebook) :
    ControlPlane σ where
  known
  sink
  store
  serving := .begin (.first r) r false

/-- The state that alterations work on. -/
def alterable : Alteration.State σ := ⟨p.live, p.store⟩

/-- Carries out an operation. -/
def apply : Operation → Answer × ControlPlane σ
  | .execute segments =>
    let (answer, after) := Alteration.execute p.known p.sink segments p.alterable
    (.executed answer,
      { p with store := after.store, serving := { p.serving with live := after.live } })
  | .preview segments => (.previewed (Alteration.preview p.known p.live.rulebook segments), p)
  | .publish r => (.done, { p with serving := p.serving.publish r })
  | .register algorithms loadBalancers =>
    (.done, { p with known := p.known.addAll algorithms loadBalancers })
  | .reload r =>
    let (received, serving) := p.serving.update r
    (.handed received, { p with serving })
  | .ring =>
    let (listeners, serving) := p.serving.ring
    (.rung listeners, { p with serving })
  | .dropBell => (.done, { p with serving := p.serving.dropBell })
  | .close => (.done, { p with serving := p.serving.close })

/-- Carries out operations in order. -/
def run : List Operation → ControlPlane σ → List Answer × ControlPlane σ
  | [], p => ([], p)
  | o :: rest, p =>
    let (answer, p) := p.apply o
    let (answers, p) := run rest p
    (answer :: answers, p)

end ControlPlane

/-- The service with its reload loop, which has seen the settings that the service began with. A
store rules over edits of the settings. -/
def Service.serving (s : Service) : Serving := .begin s.live s.settings.traffic s.sink.isSome

/-- The control plane of a service, with the files that its store is among. -/
def Service.controlPlane (s : Service) (files : FileTree) : ControlPlane FileTree where
  known := s.known
  sink := s.sink
  store := files
  serving := s.serving

end TrafficRouting

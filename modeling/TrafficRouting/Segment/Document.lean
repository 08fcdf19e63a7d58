import TrafficRouting.Rulebook.Document
import TrafficRouting.Segment.Basic

/-!
# TrafficRouting.Segment.Document — requests as TOML documents
-/

namespace TrafficRouting

open Toml

/-- A definition of a request. -/
def decodeRequested : Decoder Definition :=
  record "AlgorithmSegment" default (definitionSlots "name")

def Segment.decode : Decoder Segment :=
  record "DeltaSegment" default [
    .need "name" text fun n s => { s with name := n },
    .may "labels" names fun l s => { s with labels := l },
    .need "algorithm" decodeRequested fun a s => { s with algorithm := a },
    .may "load_balancer" decodeRequested fun b s => { s with loadBalancer := some b }]

/-- A request is a document of segments. -/
def decodeRequest : Decoder (List Segment) :=
  record "DeltaDocument" [] [.may "segments" (list Segment.decode) fun ss _ => ss]

end TrafficRouting

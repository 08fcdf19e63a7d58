import TrafficRouting.Bell
import TrafficRouting.ReloadLoop

/-!
# TrafficRouting.Serving — the live rulebook while its reload loop runs

The loop stops when its bell rings, when the bell goes away, or when no more settings can come. What
others publish meanwhile stays live until the loop publishes something new.
-/

namespace TrafficRouting

/-- A live rulebook with its loop, the bell that stops it, and whether settings can still come. -/
structure Serving where
  live : Snapshot
  loop : ReloadLoop
  bell : Bell
  /-- Settings can still be sent. -/
  sender : Bool := true
deriving DecidableEq, Repr

namespace Serving

variable (s : Serving)

/-- A loop that has just begun: it is the only listener of its bell. -/
def begin (live : Snapshot) (seen : Rulebook) (storeBacked : Bool) : Serving where
  live
  loop := { seen, storeBacked }
  bell := ({} : Bell).listen

/-- Sends a rulebook to the loop; false if nobody receives it. -/
def update (r : Rulebook) : Bool × Serving :=
  if s.sender && s.loop.running then
    let x := s.loop.receive r s.live
    (true, { s with live := x.2, loop := x.1 })
  else (false, s)

/-- A rulebook that somebody else publishes. -/
def publish (r : Rulebook) : Serving := { s with live := s.live.publish r }

/-- The loop has stopped, and listens no more. -/
def halt : Serving := { s with loop := s.loop.stop, bell := s.bell.drop 0 }

/-- Lets the loop look at its bell: anything but silence stops it. -/
def settle : Serving :=
  if s.loop.running then
    match s.bell.hear 0 with
    | (some .silence, b) => { s with bell := b }
    | (_, b) => halt { s with bell := b }
  else s

/-- Rings the bell; the number of listeners, or nothing once the bell is gone. -/
def ring : Option Nat × Serving :=
  if s.bell.present then (some s.bell.listening, settle { s with bell := s.bell.ring })
  else (none, s)

/-- The bell goes away. -/
def dropBell : Serving := settle { s with bell := s.bell.leave }

/-- No more settings can come. -/
def close : Serving := halt { s with sender := false }

end Serving

end TrafficRouting

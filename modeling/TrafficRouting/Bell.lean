/-!
# TrafficRouting.Bell — a notification to whoever listens

A bell has listeners. Ringing it leaves one notification for all of them; a second ring takes the
place of the first, and a listener that missed rings learns how many. A listener hears only rings
after it came.
-/

namespace TrafficRouting

/-- A bell: how often it rang, whether it is still there, and for each listener the number of rings
that it is done with; none for a listener that left. -/
structure Bell where
  rings : Nat := 0
  present : Bool := true
  listeners : List (Option Nat) := []
deriving DecidableEq, Repr

/-- What a listener hears. -/
inductive Heard
  | ring
  /-- Nothing yet. -/
  | silence
  /-- So many rings were missed; the newest one is still to come. -/
  | missed (rings : Nat)
  /-- Nothing any more: the bell is gone. -/
  | gone
deriving DecidableEq, Repr

namespace Bell

variable (b : Bell)

/-- A new listener, done with all rings so far; one of a bell that is gone leaves at once. -/
def listen : Bell :=
  { b with listeners := b.listeners ++ [if b.present then some b.rings else none] }

/-- How many listen. -/
def listening : Nat := (b.listeners.filter (·.isSome)).length

/-- Rings. Without listeners nothing is left behind. -/
def ring : Bell := if b.listening = 0 then b else { b with rings := b.rings + 1 }

/-- The bell goes away; what it rang stays. -/
def leave : Bell := { b with present := false }

/-- A listener goes away. -/
def drop (i : Nat) : Bell := { b with listeners := b.listeners.set i none }

/-- What a listener hears that is done with `n` rings, and the number it is done with then. -/
def hearAt (n : Nat) : Heard × Nat :=
  if n = b.rings then (if b.present then .silence else .gone, n)
  else if n + 1 = b.rings then (.ring, b.rings)
  else (.missed (b.rings - 1 - n), b.rings - 1)

/-- What a listener hears; nothing for one that left. -/
def hear (i : Nat) : Option Heard × Bell :=
  match b.listeners[i]? with
  | some (some n) =>
    let h := b.hearAt n
    (some h.1, { b with listeners := b.listeners.set i (some h.2) })
  | _ => (none, b)

end Bell

end TrafficRouting

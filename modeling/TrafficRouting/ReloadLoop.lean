import TrafficRouting.Rulebook.Same
import TrafficRouting.Snapshot

/-!
# TrafficRouting.ReloadLoop — edits of the settings file while the program serves

The loop receives rulebooks of settings one after the other. It publishes one if it differs from the
one before and no store rules.
-/

namespace TrafficRouting

/-- The loop: the rulebook it saw last, and whether it still runs. -/
structure ReloadLoop where
  seen : Rulebook
  storeBacked : Bool
  running : Bool := true
deriving DecidableEq, Repr

namespace ReloadLoop

variable (l : ReloadLoop)

/-- What the loop does with settings that arrive. -/
inductive Reaction
  /-- Nothing new. -/
  | unchanged
  /-- New, but a store rules. -/
  | ignored
  /-- New and to be published. -/
  | published
deriving DecidableEq, Repr

/-- The reaction to a rulebook. -/
def reaction (r : Rulebook) : Reaction :=
  if r.same l.seen then .unchanged else if l.storeBacked then .ignored else .published

/-- The loop and the live rulebook after one more rulebook. -/
def receive (r : Rulebook) (live : Snapshot) : ReloadLoop × Snapshot :=
  if l.running then
    match l.reaction r with
    | .unchanged => (l, live)
    | .ignored => ({ l with seen := r }, live)
    | .published => ({ l with seen := r }, live.publish r)
  else (l, live)

/-- What is reported about one more rulebook. -/
def receiveEvents (r : Rulebook) (live : Snapshot) : List Log.Event :=
  if l.running then
    match l.reaction r with
    | .unchanged => [.sectionUnchanged]
    | .ignored => [.sectionIgnored live.version]
    | .published => live.publishEvents r ++ [.reloaded (live.version + 1)]
  else []

/-- The loop after the bell, or after the last settings. -/
def stop : ReloadLoop := { l with running := false }

end ReloadLoop

end TrafficRouting

import TrafficRouting.Alteration
import TrafficRouting.Json

/-!
# TrafficRouting.Alteration.Json — the result of an alteration as JSON
-/

namespace TrafficRouting

def Persisted.toJson : Persisted → Json
  | skipped => .object [("status", .string "skipped")]
  | written => .object [("status", .string "written")]
  | failed reason => .object [("status", .string "failed"), ("reason", .string reason)]

/-- The result of the alteration with this identifier. -/
def Outcome.toJson (id : String) (o : Outcome) : Json :=
  .object [("alteration_id", .string id), ("version", .number o.version),
    ("strategies", .number o.strategies), ("persisted", o.persisted.toJson)]

end TrafficRouting

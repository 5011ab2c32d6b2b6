import ProxyKeeper.Engine.View
import ProxyKeeper.Instance.Wire
import ProxyKeeper.Profile.Wire

/-!
Views as JSON in full: what is known of a view itself, then what every observer can ask of it.
-/

namespace ProxyKeeper

open Json (entry)

instance : ToJson Status where
  toJson
    | .running => .string "running"
    | .failed message => .object [entry "failed" message]

/-- The answers that a view gives to any observer. -/
def EngineView.members {V : Type} [EngineView V] (v : V) : List (String × Json) :=
  [entry "is_running" (EngineView.isRunning v), entry "failures" (EngineView.failures v),
    entry "endpoint" (EngineView.activeEndpoint v)]

/-- A status among the members of the connection that it belongs to. -/
instance : ToJson InstanceStatus where
  toJson s := .object (s.fingerprint.members ++ [entry "outcome" s.outcome])

instance : ToJson InstanceView where
  toJson v :=
    .object ([entry "generation" v.generation, entry "stamped" v.stamped,
      entry "instances" (Json.object (v.instances.entries.map fun (id, s) => entry id s)),
      entry "len" v.instances.size, entry "empty" (v.instances.size == 0),
      entry "running_count" v.runningCount, entry "failed_count" v.failedCount]
      ++ EngineView.members v)

instance : ToJson ProfileView where
  toJson v :=
    .object ([entry "generation" v.generation, entry "stamped" v.stamped,
      entry "config_used" v.configUsed, entry "outcome" v.outcome] ++ EngineView.members v)

end ProxyKeeper

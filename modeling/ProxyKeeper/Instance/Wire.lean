import ProxyKeeper.Instance.Basic
import ProxyKeeper.Json.Member

/-!
Instances as JSON. The keys are written in clear, so these forms are for storage and not for a log.
-/

namespace ProxyKeeper

open Json (entry)

/-- The members of a connection, which an instance has among its own. -/
def Connection.members (c : Connection) : List (String × Json) :=
  [entry "server_host" c.serverHost, entry "server_port" c.serverPort,
    entry "key" c.key.reveal, entry "bind_address" c.bindAddress]

instance : ToJson Instance where
  toJson i :=
    .object ([entry "id" i.id, entry "name" i.name, entry "enabled" i.enabled,
      entry "use_websocket" i.useWebsocket] ++ i.connection.members)

end ProxyKeeper

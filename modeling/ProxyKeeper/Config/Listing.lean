import ProxyKeeper.Config.Wire
import ProxyKeeper.Host
import ProxyKeeper.Json.Member

/-!
A configuration and the settings of a host as JSON with every setting, the keys in clear. What is not
set is null.
-/

namespace ProxyKeeper

open Json (entry)

def Feed.Endpoint.members (e : Feed.Endpoint) : List (String × Json) :=
  [entry "scheme" e.scheme, entry "host" e.host, entry "path" e.path]

instance : ToJson Config.FeedSettings where
  toJson s :=
    .object (s.endpoint.members ++
      [entry "port" s.port, entry "reconnect_initial_ms" s.reconnectInitial.toNat,
        entry "reconnect_max_ms" s.reconnectMax.toNat, entry "history" s.history.toNat,
        entry "live_capacity" s.live.toNat, entry "batch_ms" s.window.toNat])

instance : ToJson Config.Ports where
  toJson p :=
    .object [entry "http_proxy" p.httpProxy, entry "socks5_proxy" p.socks5Proxy,
      entry "api_server" p.apiServer]

instance : ToJson Config.InstanceEntry where
  toJson e :=
    .object [entry "id" e.id, entry "name" e.name, entry "enabled" e.enabled,
      entry "use_websocket" e.useWebsocket, entry "server_host" e.serverHost,
      entry "server_port" e.serverPort, entry "bind_address" e.bindAddress, entry "key" e.key,
      entry "key_env" e.keyEnv]

/-- A profile with null for the addresses that it does not have. -/
def Config.profileListing (p : Profile) : Json :=
  .object [entry "id" p.id, entry "name" p.name, entry "main_server_url" p.mainServerUrl,
    entry "ai_server_url" p.aiServerUrl, entry "tailscale_server_url" p.tailscaleServerUrl]

instance : ToJson Config where
  toJson c :=
    .object [entry "mode" c.mode.name, entry "feed" c.feed, entry "ports" c.ports,
      entry "active_profile" c.activeProfile,
      entry "profiles" (c.profiles.map Config.profileListing), entry "instances" c.instances]

instance : ToJson HostSettings where
  toJson h :=
    .object [entry "endpoint" (Json.object h.ingest.endpoint.members),
      entry "initial_ms" h.ingest.backoff.initial, entry "max_ms" h.ingest.backoff.longest,
      entry "history" h.ingest.history, entry "live" h.ingest.live,
      entry "batch_ms" h.ingest.window, entry "autostart" h.autostart, entry "feed_port" h.feedPort]

end ProxyKeeper

import ProxyKeeper.Config.Wire
import ProxyKeeper.Toml.Writer

/-!
A configuration as a TOML document. What is not set is left out.
-/

namespace ProxyKeeper.Config

/-- A number of 64 bits, which TOML can write only below half of its range. -/
def longValue (n : UInt64) : Except Error Toml :=
  if Toml.isInteger n.toNat then .ok (.integer n.toNat)
  else .error (.unwritable "out-of-range value for u64 type")

def portValue (p : UInt16) : Toml := .integer p.toNat

/-- An entry for a text that may be missing. -/
def optional (name : String) (value : Option String) : List (String × Toml) :=
  (value.map fun s => (name, Toml.text s)).toList

def FeedSettings.toToml (s : FeedSettings) : Except Error Toml := do
  return .table
    ([("scheme", .text s.endpoint.scheme), ("host", .text s.endpoint.host),
        ("path", .text s.endpoint.path)]
      ++ (s.port.map fun p => ("port", portValue p)).toList
      ++ [("reconnect_initial_ms", ← longValue s.reconnectInitial),
        ("reconnect_max_ms", ← longValue s.reconnectMax), ("history", ← longValue s.history),
        ("live_capacity", ← longValue s.live), ("batch_ms", ← longValue s.window)])

def Ports.toToml (s : Ports) : Toml :=
  .table [("http_proxy", portValue s.httpProxy), ("socks5_proxy", portValue s.socks5Proxy),
    ("api_server", portValue s.apiServer)]

def profileToml (p : Profile) : Toml :=
  .table ([("id", .text p.id), ("name", .text p.name), ("main_server_url", .text p.mainServerUrl)]
    ++ optional "ai_server_url" p.aiServerUrl
    ++ optional "tailscale_server_url" p.tailscaleServerUrl)

def InstanceEntry.toToml (e : InstanceEntry) : Toml :=
  .table (optional "id" e.id
    ++ [("name", .text e.name), ("enabled", .flag e.enabled), ("use_websocket", .flag e.useWebsocket),
      ("server_host", .text e.serverHost), ("server_port", portValue e.serverPort),
      ("bind_address", .text e.bindAddress)]
    ++ optional "key" e.key ++ optional "key_env" e.keyEnv)

/-- The entries of the document. -/
def toToml (c : Config) : Except Error (List (String × Toml)) := do
  return [("mode", .text c.mode.name), ("feed", ← c.feed.toToml), ("ports", c.ports.toToml)]
    ++ optional "active_profile" c.activeProfile
    ++ [("profiles", .array (c.profiles.map profileToml)),
      ("instances", .array (c.instances.map (·.toToml)))]

/-- The text of the document. -/
def save (c : Config) : Except Error String := c.toToml.map Toml.render

end ProxyKeeper.Config

import ProxyKeeper.Config.Wire

/-!
A configuration as it is shown to the user. Of a key nothing is shown but that there is one.
-/

namespace ProxyKeeper.CommandLine

/-- One setting; the value is as it is. -/
def settingLine (name value : String) : String := name ++ " = " ++ value

def textLine (name value : String) : String := settingLine name ("\"" ++ value ++ "\"")

/-- A line for a text that may be missing. -/
def optionalLine (name : String) (value : Option String) : List String :=
  (value.map (textLine name)).toList

def feedLines (f : Config.FeedSettings) : List String :=
  ["", "[feed]", textLine "scheme" f.endpoint.scheme, textLine "host" f.endpoint.host,
      textLine "path" f.endpoint.path]
    ++ (f.port.map fun p => settingLine "port" (toString p)).toList
    ++ [settingLine "reconnect_initial_ms" (toString f.reconnectInitial),
      settingLine "reconnect_max_ms" (toString f.reconnectMax),
      settingLine "history" (toString f.history), settingLine "live_capacity" (toString f.live),
      settingLine "batch_ms" (toString f.window)]

def portLines (p : Config.Ports) : List String :=
  ["", "[ports]", settingLine "http_proxy" (toString p.httpProxy),
    settingLine "socks5_proxy" (toString p.socks5Proxy),
    settingLine "api_server" (toString p.apiServer)]

def profileLines (p : Profile) : List String :=
  ["", "[[profiles]]", textLine "id" p.id, textLine "name" p.name,
      textLine "main_server_url" p.mainServerUrl]
    ++ optionalLine "ai_server_url" p.aiServerUrl
    ++ optionalLine "tailscale_server_url" p.tailscaleServerUrl

/-- What stands in the place of a key. -/
def keyMask : String := "****"

def instanceLines (e : Config.InstanceEntry) : List String :=
  ["", "[[instances]]", textLine "id" e.identity, textLine "name" e.name,
      settingLine "enabled" (toString e.enabled),
      settingLine "use_websocket" (toString e.useWebsocket),
      textLine "server_host" e.serverHost, settingLine "server_port" (toString e.serverPort),
      textLine "bind_address" e.bindAddress]
    ++ optionalLine "key" (e.key.map fun _ => keyMask)
    ++ optionalLine "key_env" e.keyEnv

/-- The lines of a configuration. -/
def configLines (c : Config) : List String :=
  textLine "mode" c.mode.name :: optionalLine "active_profile" c.activeProfile
    ++ feedLines c.feed ++ portLines c.ports
    ++ c.profiles.flatMap profileLines ++ c.instances.flatMap instanceLines

/-- Lines as a text, each with its end. -/
def joinLines (lines : List String) : String := String.join (lines.map (· ++ "\n"))

/-- The text of a configuration with its keys masked. -/
def summary (c : Config) : String := joinLines (configLines c)

end ProxyKeeper.CommandLine

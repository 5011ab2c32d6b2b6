import ProxyKeeper.Feed.Endpoint
import ProxyKeeper.Feed.Replay
import ProxyKeeper.Profile.Basic

/-!
The configuration of the program as a user writes it.
-/

namespace ProxyKeeper

/-- Which kind of engine is run. -/
inductive Config.Mode where
  /-- Any number of instances. -/
  | instances
  /-- One engine for the selected profile. -/
  | profile
  deriving Repr, DecidableEq, Inhabited

/-- The settings of the event feed; times are in milliseconds. -/
structure Config.FeedSettings where
  endpoint : Feed.Endpoint := {}
  /-- The port of the events while instances run. -/
  port : Option UInt16 := none
  reconnectInitial : UInt64 := 1000
  reconnectMax : UInt64 := 1000
  history : UInt64 := 100
  live : UInt64 := 1024
  window : UInt64 := 100
  deriving DecidableEq, Inhabited

/-- The local ports of the engine of a profile. -/
structure Config.Ports where
  httpProxy : UInt16 := 8080
  socks5Proxy : UInt16 := 1080
  apiServer : UInt16 := 3010
  deriving DecidableEq, Inhabited

/-- An instance as it is configured: its id may be left to its name, and its key may be given by the
name of a variable. -/
structure Config.InstanceEntry where
  id : Option String
  name : String
  enabled : Bool := true
  useWebsocket : Bool := false
  serverHost : String
  serverPort : UInt16
  bindAddress : String
  key : Option String
  keyEnv : Option String
  deriving DecidableEq

/-- The id of an entry, which is its name if it gives none. -/
def Config.InstanceEntry.identity (e : Config.InstanceEntry) : String := e.id.getD e.name

structure Config where
  mode : Config.Mode := .instances
  feed : Config.FeedSettings := {}
  ports : Config.Ports := {}
  /-- The id of the selected profile. -/
  activeProfile : Option String := none
  profiles : List Profile := []
  instances : List Config.InstanceEntry := []
  deriving DecidableEq, Inhabited

end ProxyKeeper

import ProxyKeeper.Failure
import ProxyKeeper.Net.SocketAddress
import ProxyKeeper.Text.Blank
import ProxyKeeper.Text.Described

/-!
Proxy instances as the user configures them. The `Connection` of an instance is what its proxy is
built from, and only a change there calls for a new proxy; name, selection and the rest are for the
user's eyes.
-/

namespace ProxyKeeper

/-- A text that is compared but never shown. -/
structure Secret where
  reveal : String
  deriving DecidableEq, BEq

structure Connection where
  serverHost : String
  serverPort : UInt16
  key : Secret
  /-- The local address to listen on. -/
  bindAddress : String
  deriving DecidableEq, BEq

namespace Connection

/-- The address to listen on as a socket address. -/
def socketAddress (c : Connection) : Except Failure Net.SocketAddress :=
  match Net.SocketAddress.parse? c.bindAddress with
  | some address => .ok address
  | none => .error (.validation "bind_address" s!"'{c.bindAddress}': invalid socket address syntax")

def validate (c : Connection) : Check := do
  Check.require (!Text.isAllBlank c.serverHost) "server_host" "must not be empty"
  Check.require (c.serverPort != 0) "server_port" "must be between 1 and 65535"
  Check.require (!c.key.reveal.isEmpty) "key" "must not be empty"
  let _ ← c.socketAddress

/-- What a log may say of a connection: everything but the key. -/
def describe (c : Connection) : String :=
  Text.describe "ConnectionParams"
    [("server_host", Text.quoted c.serverHost), ("server_port", toString c.serverPort),
      ("key", Text.quoted "[REDACTED]"), ("bind_address", Text.quoted c.bindAddress)]

end Connection

structure Instance where
  id : String
  name : String
  enabled : Bool
  useWebsocket : Bool
  connection : Connection
  deriving DecidableEq, BEq

namespace Instance

/-- A new instance, enabled, under an id of its own. -/
def create (id name : String) (connection : Connection) : Instance :=
  ⟨id, name, true, false, connection⟩

def validate (i : Instance) : Check := do
  Check.require (!i.id.isEmpty) "id" "must not be empty"
  Check.require (!Text.isAllBlank i.name) "name" "must not be empty"
  i.connection.validate

/-- What a log may say of an instance. -/
def describe (i : Instance) : String :=
  Text.describe "InstanceConfig"
    [("id", "InstanceId(" ++ Text.quoted i.id ++ ")"), ("name", Text.quoted i.name),
      ("enabled", toString i.enabled), ("use_websocket", toString i.useWebsocket),
      ("params", i.connection.describe)]

end Instance

end ProxyKeeper

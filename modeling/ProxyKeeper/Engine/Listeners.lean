import ProxyKeeper.Engine.Instances
import ProxyKeeper.Engine.Profile

/-!
Factories whose handles are listening sockets. An address that is taken cannot be bound again; what
a handle holds is free as soon as the handle is released. Port zero is never taken: the system picks
one that is free.
-/

namespace ProxyKeeper.Listeners

open Net

/-- Whether two addresses ask for the same place: one port, and one IP address or a wildcard. -/
def overlaps (a b : SocketAddress) : Bool :=
  a.port != 0 && a.port == b.port &&
    match a, b with
    | .v4 x _, .v4 y _ => x == y || x == .unspecified || y == .unspecified
    | .v6 x _ _, .v6 y _ _ => x == y || isAny x || isAny y
    | .v4 .., .v6 y _ _ => isAny y
    | .v6 x _ _, .v4 .. => isAny x
where
  /-- The wildcard of the newer kind takes the port of both kinds. -/
  isAny (ip : Ipv6) : Bool := ip.groups.all (· == 0)

/-- The system's word for an address that is taken. -/
def inUse : String := "Address already in use (os error 98)"

/-- Whether an address can be bound next to these. -/
def isFree (bound : List SocketAddress) (address : SocketAddress) : Bool :=
  !bound.any (overlaps address)

/-! ## instances -/

/-- The sockets of the handles that are alive. -/
def instanceSockets (calls : List (FactoryCall Connection)) : List SocketAddress :=
  (FactoryCall.held calls).filterMap fun c => SocketAddress.parse? c.bindAddress

/-- Binds the address of each instance; `taken` are addresses that others hold. -/
def instances (taken : List SocketAddress) : Factory Connection where
  attempt calls c :=
    match c.socketAddress with
    | .error failure => .error failure.message
    | .ok address =>
      if isFree (taken ++ instanceSockets calls) address then .ok ()
      else .error s!"cannot bind {address.render}: {inUse}"

/-! ## profiles -/

/-- An address of this machine that only it can reach. -/
def loopback (port : UInt16) : SocketAddress := .v4 .loopback port

/-- The two proxy listeners of a profile. -/
def proxySockets (p : ProfileParams) : List SocketAddress :=
  [loopback p.httpProxyPort, loopback p.socks5ProxyPort]

/-- The sockets of the handles that are alive. -/
def profileSockets (calls : List (FactoryCall ProfileParams)) : List SocketAddress :=
  (FactoryCall.held calls).flatMap proxySockets

/-- Binds both proxy ports, the HTTP port first; if the second fails the first is not kept. -/
def profiles (taken : List SocketAddress) : Factory ProfileParams where
  attempt calls p :=
    let bound := taken ++ profileSockets calls
    if !isFree bound (loopback p.httpProxyPort) then
      .error s!"cannot bind HTTP proxy port {p.httpProxyPort}: {inUse}"
    else if !isFree (loopback p.httpProxyPort :: bound) (loopback p.socks5ProxyPort) then
      .error s!"cannot bind SOCKS5 proxy port {p.socks5ProxyPort}: {inUse}"
    else .ok ()

end ProxyKeeper.Listeners

import ProxyKeeper.Net.Ip

/-!
Socket addresses: an IP address and a port. The newer kind of address stands in brackets and may
name the scope it is valid in.
-/

namespace ProxyKeeper.Net

open Text

inductive SocketAddress where
  | v4 (ip : Ipv4) (port : UInt16)
  | v6 (ip : Ipv6) (scope : Nat) (port : UInt16)
  deriving Repr, DecidableEq, BEq

namespace SocketAddress

def port : SocketAddress → UInt16
  | .v4 _ port => port
  | .v6 _ _ port => port

def isV6 : SocketAddress → Bool
  | .v4 .. => false
  | .v6 .. => true

def render : SocketAddress → String
  | .v4 ip port => s!"{ip.render}:{port}"
  | .v6 ip scope port =>
    "[" ++ ip.render ++ (if scope = 0 then "" else s!"%{scope}") ++ s!"]:{port}"

def port? (s : List Char) : Option UInt16 := (readDecimal UInt16.size s).map Nat.toUInt16

/-- An address in brackets, from behind the opening one. -/
def bracketed? (s : List Char) : Option SocketAddress := do
  let (inside, behind) ← cutAt ']' s
  let (address, scope) ←
    match cutAt '%' inside with
    | none => some (inside, 0)
    | some (address, scope) => (readDecimal UInt32.size scope).map fun n => (address, n)
  match behind with
  | ':' :: digits => return .v6 (← Ipv6.parse? address) scope (← port? digits)
  | _ => none

/-- The socket address that a text stands for. -/
def parse? (s : String) : Option SocketAddress :=
  match s.toList with
  | '[' :: rest => bracketed? rest
  | text => do
    let (address, digits) ← cutAt ':' text
    return .v4 (← Ipv4.parse? address) (← port? digits)

end SocketAddress

end ProxyKeeper.Net

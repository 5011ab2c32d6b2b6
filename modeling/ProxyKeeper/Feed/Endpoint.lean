import ProxyKeeper.Data.Record
import ProxyKeeper.Feed.Error
import ProxyKeeper.Json.Decode
import ProxyKeeper.Url.Parser

/-!
Where an engine serves its events, but for the port, which depends on what is running.
-/

namespace ProxyKeeper.Feed

structure Endpoint where
  scheme : String := "ws"
  host : String := "127.0.0.1"
  path : String := "/events"
  deriving Repr, DecidableEq, BEq, Inhabited

namespace Endpoint

/-- The text of the address at a port, before it is read as a URL. -/
def textFor (e : Endpoint) (port : UInt16) : String := s!"{e.scheme}://{e.host}:{port}{e.path}"

/-- The address at a port: a URL with one of the two feed schemes. -/
def urlFor (e : Endpoint) (port : UInt16) : Except Error Url :=
  if port = 0 then .error (.invalidEndpoint (e.textFor 0) "port must be non-zero")
  else
    match Url.parse (e.textFor port) with
    | .error cause => .error (.invalidUrl cause)
    | .ok url =>
      if url.scheme = "ws" ∨ url.scheme = "wss" then .ok url
      else .error (.invalidEndpoint (e.textFor port) s!"unsupported scheme '{url.scheme}'")

open Data in
/-- The fields of an endpoint, all of which may be left out. -/
def shape {κ ι : Type} : Shape κ ι Endpoint :=
  ⟨"struct FeedEndpoint",
    [.of "scheme" .allowed Take.text fun v e => { e with scheme := v },
      .of "host" .allowed Take.text fun v e => { e with host := v },
      .of "path" .allowed Take.text fun v e => { e with path := v }],
    {}⟩

/-- The endpoint that a JSON value gives. -/
def ofJson (v : Json) : Except Json.DecodeError Endpoint := Json.decodeValue shape.take v

end Endpoint

end ProxyKeeper.Feed

import ProxyKeeper.Failure
import ProxyKeeper.Url.Error

/-!
What can go wrong with a feed: its address, its connection, or a frame on it.
-/

namespace ProxyKeeper.Feed

inductive Error where
  | invalidUrl (cause : Url.ParseError)
  /-- A URL that cannot be the address of a feed. -/
  | invalidEndpoint (url reason : String)
  | connect (cause : String)
  /-- The end of a connection; one without a closing frame has code 1006. -/
  | closed (code : UInt16) (reason : String)
  | undecodable (cause body : String)
  deriving Repr, DecidableEq

namespace Error

/-- The code of a connection that ends without a closing frame. -/
def abnormalCode : UInt16 := 1006

def message : Error → String
  | .invalidUrl cause => s!"Invalid URL: {cause.message}"
  | .invalidEndpoint url reason => s!"Invalid feed endpoint {url}: {reason}"
  | .connect cause => s!"WebSocket connection failed: {cause}"
  | .closed code reason => s!"WebSocket closed (code {code}): {reason}"
  | .undecodable cause _ => s!"Deserialization error: {cause}"

/-- The same error as the host reports it: a bad address is a setting to mend. -/
def toFailure : Error → Failure
  | .invalidUrl cause => .validation "feed endpoint" cause.message
  | .invalidEndpoint url reason => .validation "feed endpoint" s!"{url}: {reason}"
  | e => .feed e.message

end Error

end ProxyKeeper.Feed

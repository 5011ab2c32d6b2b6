import ProxyKeeper.Feed.Sink

/-!
The journal of a feed as lines of text.
-/

namespace ProxyKeeper.Feed

def State.text : State → String
  | .idle => "Idle"
  | .connecting => "Connecting"
  | .streaming => "Streaming"
  | .backingOff attempt => s!"BackingOff \x7b attempt: {attempt} \x7d"

/-- The line of a note. Of a connection that broke off only the code is told, since the rest is the
wording of the transport. -/
def Note.line : Note → String
  | .state next => s!"state {next.text}"
  | .event e => s!"event {e.host} via {e.outbound}"
  | .skipped cause => s!"skipped: {cause.message}"
  | .closedCleanly => "closed cleanly"
  | .dropped (.closed code reason) =>
    if code = Error.abnormalCode then s!"dropped: code {code}"
    else s!"dropped: {(Error.closed code reason).message}"
  | .dropped cause => s!"dropped: {cause.message}"
  | .failed attempt => s!"failed attempt {attempt}"
  | .waiting delay attempt => s!"wait {delay}ms attempt {attempt}"
  | .loopExit => "loop exit"
  | .opening url => s!"open {url.render}"
  | .closing url => s!"close {url.render}"
  | .unusable cause => s!"unusable: {cause.message}"

end ProxyKeeper.Feed

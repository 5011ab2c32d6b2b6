import ProxyKeeper.Event.Wire
import ProxyKeeper.Feed.Error
import ProxyKeeper.Feed.Replay
import ProxyKeeper.Url.Basic
import ProxyKeeper.Watch

/-!
Where a feed delivers: the events it decodes, its state, and a journal of what happened. A sink
outlives the connections that deliver to it, so that its subscribers need not care when the address
of the feed changes.
-/

namespace ProxyKeeper.Feed

inductive State where
  /-- There is nothing to connect to. -/
  | idle
  | connecting
  | streaming
  /-- Waiting before the next attempt. -/
  | backingOff (attempt : Nat)
  deriving Repr, DecidableEq

/-- What a feed writes into its journal. -/
inductive Note where
  | state (next : State)
  | event (e : Event)
  /-- A frame that is no event. -/
  | skipped (cause : Error)
  | closedCleanly
  | dropped (cause : Error)
  | failed (attempt : Nat)
  | waiting (delay attempt : Nat)
  | loopExit
  | opening (url : Url)
  | closing (url : Url)
  /-- A port at which there can be no feed. -/
  | unusable (cause : Error)

structure Sink where
  events : Replay Event
  state : Watch State := { value := .idle }
  journal : List Note := []

namespace Sink

def create (history live : Nat) : Sink := { events := .create history live }

def note (n : Note) (s : Sink) : Sink := { s with journal := s.journal ++ [n] }

/-- Goes to a state; watchers are told only of a real change. -/
def setState (next : State) (s : Sink) : Sink :=
  if s.state.value = next then s
  else ({ s with state := s.state.publish next } : Sink).note (.state next)

def markIdle (s : Sink) : Sink := s.setState .idle

def publish (e : Event) (s : Sink) : Sink :=
  ({ s with events := s.events.publish e } : Sink).note (.event e)

end Sink

end ProxyKeeper.Feed

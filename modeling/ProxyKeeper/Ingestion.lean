import ProxyKeeper.Coordinator
import ProxyKeeper.Feed.Batches
import ProxyKeeper.Feed.Endpoint
import ProxyKeeper.Feed.Loop

/-!
Ingestion of events: follows a watched value that tells at which port there is a feed, and keeps one
loop at the address of the latest port. When the address changes the old loop ends before the new
one starts; when the value is published no longer the last address is kept.
-/

namespace ProxyKeeper

open Feed

structure IngestSettings where
  endpoint : Endpoint := {}
  backoff : Backoff := {}
  history : Nat := Replay.defaultCapacity
  live : Nat := Replay.defaultLive
  /-- The window of batches in milliseconds. -/
  window : Nat := 100
  deriving Inhabited

structure Ingestion where
  settings : IngestSettings
  sink : Sink
  loop : Option Loop := none
  task : ObserverTask := .ready

namespace Ingestion

def create (settings : IngestSettings) : Ingestion :=
  { settings, sink := .create settings.history settings.live }

/-- Makes an ingestion where there is room for its channel. -/
def allocate (m : Memory) (settings : IngestSettings) : Except Crash Ingestion := do
  let events ← Replay.allocate m settings.history settings.live
  return { settings, sink := { events } }

/-! ## subscribers -/

def subscribe (i : Ingestion) : Ingestion × Receiver Event :=
  let (events, r) := i.sink.events.subscribe
  ({ i with sink := { i.sink with events } }, r)

/-- A subscriber that receives batches. -/
def batches (i : Ingestion) : Ingestion × Batches Event :=
  let (i, r) := i.subscribe
  (i, .create r i.settings.window)

/-! ## following the port -/

/-- The address that is wanted for a port; one that cannot be used is noted. -/
def wanted (port : Option UInt16) (i : Ingestion) : Option Url × Sink :=
  match port with
  | none => (none, i.sink)
  | some p =>
    match i.settings.endpoint.urlFor p with
    | .ok url => (some url, i.sink)
    | .error cause => (none, i.sink.note (.unusable cause))

/-- Ends the loop that is there. -/
def closeLoop (l : Option Loop) (s : Sink) : Sink :=
  match l with
  | none => s
  | some l => l.cancel (s.note (.closing l.url))

/-- Starts a loop where one is wanted. -/
def openLoop (url : Option Url) (s : Sink) : Option Loop × Sink :=
  match url with
  | none => (none, s.markIdle)
  | some url => (some { url }, s.note (.opening url))

/-- Makes the loop fit a port: nothing happens as long as the address stays the same. -/
def follow (port : Option UInt16) (i : Ingestion) : Ingestion :=
  let (url, sink) := i.wanted port
  if i.loop.map (·.url) = url then { i with sink }
  else
    let (loop, sink) := openLoop url (closeLoop i.loop sink)
    { i with loop, sink }

/-- Follows the latest port. A source that is gone is looked at once more, and then held. -/
def followAndWait {S : Type} (portOf : S → Option UInt16) (source : Watch S) (i : Ingestion) :
    Ingestion :=
  let i := i.follow (portOf source.value)
  if source.live then { i with task := .waiting source.subscribe }
  else { i.follow (portOf source.value) with task := .holding }

/-- Lets the task that follows the port run until it waits. -/
def settleTask {S : Type} (portOf : S → Option UInt16) (source : Watch S) (i : Ingestion) :
    Ingestion :=
  match i.task with
  | .ready => i.followAndWait portOf source
  | .waiting watcher =>
    match source.notice watcher with
    | .changed => i.followAndWait portOf source
    | .pending => i
    | .closed => { i.follow (portOf source.value) with task := .holding }
  | .holding | .ended => i

/-- Applies a step of the loop, if there is one. -/
def withLoop (step : Loop → Sink → Loop × Sink) (i : Ingestion) : Ingestion :=
  match i.loop with
  | none => i
  | some l =>
    let (l, sink) := step l i.sink
    { i with loop := some l, sink }

/-- Lets everything run until it waits. -/
def settle {S : Type} (portOf : S → Option UInt16) (source : Watch S) (now : Nat)
    (peer : Url → Handshake) (i : Ingestion) : Ingestion :=
  (i.settleTask portOf source).withLoop (·.settle i.settings.backoff now peer)

/-- When the loop will wake by itself. -/
def wake? (i : Ingestion) : Option Nat := i.loop.bind (·.wake?)

/-- Lets the loop run through what is due until a time, each attempt at its own moment; `fuel` bounds
the number of attempts. -/
def elapseFor (peer : Url → Handshake) (limit : Nat) : Nat → Ingestion → Ingestion
  | 0, i => i
  | fuel + 1, i =>
    match i.wake? with
    | some wake =>
      if wake ≤ limit then
        elapseFor peer limit fuel (i.withLoop (·.settle i.settings.backoff wake peer))
      else i
    | none => i

/-- Lets time pass from one moment to another. Every wait takes a millisecond or more, so there are
no more attempts than there are milliseconds. -/
def elapse (peer : Url → Handshake) (start limit : Nat) (i : Ingestion) : Ingestion :=
  elapseFor peer limit (limit + 1 - start) i

/-- Waits for a batch while the peers send nothing; also returns when the wait ended. -/
def nextBatch (peer : Url → Handshake) (now limit : Nat) (b : Batches Event) (i : Ingestion) :
    Ingestion × Batches Event × Delivery (List Event) × Nat :=
  let (b, result, till) := b.wait now limit i.sink.events
  (i.elapse peer now till, b, result, till)

/-- The frames that a peer sends. -/
def receive (now : Nat) (fs : List Frame) (i : Ingestion) : Ingestion :=
  i.withLoop (·.frames i.settings.backoff now fs)

/-- Ends the loop and the task; a task that has not yet run looks at the port first. -/
def shutdown {S : Type} (portOf : S → Option UInt16) (source : Watch S) (i : Ingestion) : Ingestion :=
  let i := if i.task = .ready then i.follow (portOf source.value) else i
  let sink := (i.loop.map (·.cancel i.sink)).getD i.sink
  { i with loop := none, sink := sink.markIdle, task := .ended }

end Ingestion

end ProxyKeeper

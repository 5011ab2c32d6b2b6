import ProxyKeeper.Delivery
import ProxyKeeper.Memory

/-!
A channel that replays. Items are published to all subscribers; a subscriber that comes late first
receives the last items published before it came, then what is published after. The channel keeps
only so many items for a live subscriber, and one that falls further behind goes on with the oldest
item that is still there.

A channel takes its room when it is made, for the items that it will keep, so that it can be made only
where that room is to be had (`Replay.allocate`).
-/

namespace ProxyKeeper.Feed

/-- The last `n` elements of a list. -/
def lastN {α : Type} (n : Nat) (l : List α) : List α := l.drop (l.length - n)

/-- The least power of two that is not below `n`, found among `2^k`, `2^(k+1)`, … -/
def powerFrom (n : Nat) : Nat → Nat → Nat
  | 0, p => p
  | fuel + 1, p => if n ≤ p then p else powerFrom n fuel (2 * p)

/-- How many live items a ring of a wanted size holds: at least one, and a power of two. -/
def ringSize (wanted : Nat) : Nat := powerFrom wanted wanted 1

structure Replay (α : Type) where
  /-- How many items are kept for subscribers that come late. -/
  capacity : Nat
  /-- How many items are kept for a live subscriber. -/
  ringCapacity : Nat
  history : List α := []
  /-- The last items published, as many as the ring holds. -/
  ring : List α := []
  /-- How many items were published. -/
  count : Nat := 0
  /-- How many publishers hold the channel. -/
  handles : Nat := 1
  /-- How many subscribers are attached. -/
  subscribers : Nat := 0
  deriving Repr

/-- What a subscriber still has to receive of the items published before it came, and the number of
the live item that it receives next. -/
structure Receiver (α : Type) where
  backlog : List α
  next : Nat
  deriving Repr

namespace Replay

variable {α : Type}

def defaultCapacity : Nat := 100

def defaultLive : Nat := 1024

/-- A channel for `history` past items and rings of `live` items. -/
def create (history live : Nat) : Replay α := { capacity := history, ringCapacity := ringSize live }

/-- Makes a channel: the ring takes its room first, then the past items, which are kept by reference. -/
def allocate (m : Memory) (history live : Nat) : Except Crash (Replay α) := do
  if Memory.limit < live then throw .ring
  m.reserve (ringSize live * m.slotBytes)
  m.reserve (history * Memory.referenceBytes)
  return create history live

def publish (x : α) (c : Replay α) : Replay α :=
  { c with
    history := lastN c.capacity (c.history ++ [x])
    ring := lastN c.ringCapacity (c.ring ++ [x])
    count := c.count + 1 }

def publishAll (xs : List α) (c : Replay α) : Replay α := xs.foldl (fun c x => c.publish x) c

/-- Attaches a subscriber. -/
def subscribe (c : Replay α) : Replay α × Receiver α :=
  ({ c with subscribers := c.subscribers + 1 }, ⟨c.history, c.count⟩)

def unsubscribe (c : Replay α) : Replay α := { c with subscribers := c.subscribers - 1 }

/-- One more publisher holds the channel. -/
def clone (c : Replay α) : Replay α := { c with handles := c.handles + 1 }

/-- A publisher lets go of the channel. -/
def drop (c : Replay α) : Replay α := { c with handles := c.handles - 1 }

def isClosed (c : Replay α) : Bool := c.handles == 0

/-- The live items from number `next` on; those that are gone are skipped. -/
def liveFrom (c : Replay α) (next : Nat) : List α := c.ring.drop (next - (c.count - c.ring.length))

end Replay

namespace Receiver

variable {α : Type}

/-- All that can be received at once. -/
def available (r : Receiver α) (c : Replay α) : List α := r.backlog ++ c.liveFrom r.next

/-- The subscriber once it has received all of that. -/
def caughtUp (c : Replay α) : Receiver α := ⟨[], c.count⟩

/-- The next item that is there. -/
def take? (r : Receiver α) (c : Replay α) : Option (α × Receiver α) :=
  match r.backlog with
  | x :: rest => some (x, { r with backlog := rest })
  | [] =>
    match c.liveFrom r.next with
    | [] => none
    | x :: rest => some (x, ⟨[], c.count - rest.length⟩)

/-- Takes an item without waiting. -/
def tryReceive (r : Receiver α) (c : Replay α) : Receiver α × Option α :=
  match r.take? c with
  | some (x, r) => (r, some x)
  | none => (r, none)

/-- Asks for an item: it is there, or may come, or the last publisher is gone. -/
def receive (r : Receiver α) (c : Replay α) : Receiver α × Delivery α :=
  match r.take? c with
  | some (x, r) => (r, .item x)
  | none => (r, if c.isClosed then .closed else .pending)

end Receiver

/-- A subscriber read as a stream, which stays at its end once it is there. -/
structure ReceiverStream (α : Type) where
  receiver : Receiver α
  ended : Bool := false
  deriving Repr

/-- One poll of the stream. -/
def ReceiverStream.poll {α : Type} (s : ReceiverStream α) (c : Replay α) :
    ReceiverStream α × Delivery α :=
  if s.ended then (s, .closed)
  else
    match s.receiver.receive c with
    | (r, .closed) => (⟨r, true⟩, .closed)
    | (r, d) => (⟨r, false⟩, d)

end ProxyKeeper.Feed

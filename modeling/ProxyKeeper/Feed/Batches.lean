import ProxyKeeper.Feed.Replay

/-!
Items in batches. The first item that is received opens a window of time; all that is received
before the window ends is one batch. Items wait with the batches and not with the call that asks for
them, so a call that is given up loses nothing and moves no window.
-/

namespace ProxyKeeper.Feed

structure Batches (α : Type) where
  source : Receiver α
  /-- The length of a window in milliseconds. -/
  window : Nat
  pending : List α := []
  /-- When the open window ends. -/
  deadline : Option Nat := none
  deriving Repr

namespace Batches

variable {α : Type}

def create (source : Receiver α) (window : Nat) : Batches α := { source, window }

/-- Receives all that is there; the first item opens a window. -/
def gather (now : Nat) (c : Replay α) (b : Batches α) : Batches α :=
  let items := b.source.available c
  { b with
    source := if items.isEmpty then b.source else .caughtUp c
    pending := b.pending ++ items
    deadline := if b.pending.isEmpty && !items.isEmpty then some (now + b.window) else b.deadline }

/-- Hands over what is pending. -/
def flush (b : Batches α) : Batches α × Delivery (List α) :=
  ({ b with pending := [], deadline := none }, .item b.pending)

/-- Asks for a batch at a time: what is pending when the window has ended, or when nothing more can
come. -/
def poll (now : Nat) (c : Replay α) (b : Batches α) : Batches α × Delivery (List α) :=
  let b := b.gather now c
  if c.isClosed then
    if b.pending.isEmpty then ({ b with deadline := none }, .closed) else b.flush
  else if b.deadline.any (· ≤ now) then b.flush
  else (b, .pending)

/-- Waits for a batch from `now` on for at most `limit` milliseconds, while nothing is published;
also returns the time at which the wait ended. A batch that is ready at the last moment counts. -/
def wait (now limit : Nat) (c : Replay α) (b : Batches α) : Batches α × Delivery (List α) × Nat :=
  match b.poll now c with
  | (b, .pending) =>
    match b.deadline with
    | some d =>
      if d ≤ now + limit then
        let (b, r) := b.poll d c
        (b, r, d)
      else (b, .pending, now + limit)
    | none => (b, .pending, now + limit)
  | (b, r) => (b, r, now)

/-- All batches that are left once nothing more can come. -/
def rest (now : Nat) (c : Replay α) (b : Batches α) : List (List α) :=
  match b.poll now c with
  | (_, .item batch) => [batch]
  | (_, .pending) | (_, .closed) => []

end Batches

end ProxyKeeper.Feed

/-!
Watched values. A `Watch` is a value that is published again and again and counts its publications;
a `Watcher` knows how many of them it has seen. What is published between two looks of a watcher is
one change to it, and it finds the latest value. Once the publisher is gone a watcher is told so,
but only after it has seen the last value.
-/

namespace ProxyKeeper

structure Watch (α : Type) where
  value : α
  version : Nat := 0
  /-- Whether the publisher is still there. -/
  live : Bool := true
  deriving Repr, DecidableEq

/-- How many publications an observer has seen. -/
structure Watcher where
  seen : Nat
  deriving Repr, DecidableEq

/-- What a watcher is told that asks for a change. -/
inductive Notice where
  | changed
  | pending
  | closed
  deriving Repr, DecidableEq

namespace Watch

variable {α β ε : Type}

def publish (v : α) (w : Watch α) : Watch α := { w with value := v, version := w.version + 1 }

/-- The watch after its publisher went away. -/
def close (w : Watch α) : Watch α := { w with live := false }

/-- A watcher that has seen what is published so far. -/
def subscribe (w : Watch α) : Watcher := ⟨w.version⟩

/-- What `o` is told about a change. -/
def notice (w : Watch α) (o : Watcher) : Notice :=
  if w.version ≠ o.seen then .changed else if w.live then .pending else .closed

/-- Publishes the outcome of an edit, or nothing if the edit fails. -/
def update (edit : α → Except ε (α × β)) (w : Watch α) : Watch α × Except ε β :=
  match edit w.value with
  | .ok (v, b) => (w.publish v, .ok b)
  | .error e => (w, .error e)

end Watch

end ProxyKeeper

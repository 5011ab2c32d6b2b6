import ProxyKeeper.Delivery
import ProxyKeeper.Watch

/-!
Subscriptions to a published view. A subscription shows the view it last delivered and the latest,
and delivers the latest when there was a publication since. As a stream it delivers the latest view
first in any case.
-/

namespace ProxyKeeper

structure Subscription (V : Type) where
  current : V
  watcher : Watcher
  deriving Repr, DecidableEq

namespace Subscription

variable {V : Type}

def start (w : Watch V) : Subscription V := ⟨w.value, w.subscribe⟩

def latest (_ : Subscription V) (w : Watch V) : V := w.value

/-- Asks for a view that has not been delivered. -/
def changed (s : Subscription V) (w : Watch V) : Subscription V × Delivery V :=
  match w.notice s.watcher with
  | .changed => (⟨w.value, w.subscribe⟩, .item w.value)
  | .pending => (s, .pending)
  | .closed => (s, .closed)

end Subscription

/-- A subscription read as a stream: not yet polled, or polled before. -/
inductive ViewStream where
  | fresh
  | polled (watcher : Watcher)
  deriving Repr, DecidableEq

namespace ViewStream

variable {V : Type}

/-- One poll: the first delivers the latest view, even one that was seen. -/
def poll (s : ViewStream) (w : Watch V) : ViewStream × Delivery V :=
  match s with
  | .fresh => (.polled w.subscribe, .item w.value)
  | .polled watcher =>
    match w.notice watcher with
    | .changed => (.polled w.subscribe, .item w.value)
    | .pending => (s, .pending)
    | .closed => (s, .closed)

end ViewStream

end ProxyKeeper

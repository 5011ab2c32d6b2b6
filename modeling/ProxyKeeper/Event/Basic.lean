/-!
Events: what a running proxy reports of the connections it makes. `Event` is one attempt to reach
a host through an outbound; whether it failed, and why, is its outcome.
-/

namespace ProxyKeeper

/-- How an attempt to reach a host ended. -/
inductive Event.Outcome where
  | connected
  | failed (diagnostic : String)
  deriving Repr, DecidableEq, BEq

structure Event where
  host : String
  port : UInt16
  outbound : String
  delayMillis : UInt64
  /-- The time of the request in milliseconds since 1970. -/
  requestTimeMillis : UInt64
  outcome : Event.Outcome
  deriving Repr, DecidableEq, BEq

namespace Event

def diagnostic? (e : Event) : Option String :=
  match e.outcome with
  | .connected => none
  | .failed diagnostic => some diagnostic

def isFailure (e : Event) : Bool := e.diagnostic?.isSome

end Event

end ProxyKeeper

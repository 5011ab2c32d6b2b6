import ProxyKeeper.Feed.Backoff
import ProxyKeeper.Feed.Sink

/-!
The loop of a feed at one address: connect, read events until the session ends, wait, connect again.
Only cancelling ends the loop.
-/

namespace ProxyKeeper.Feed

/-! ## what the peer does -/

/-- How an attempt to connect goes. -/
inductive Handshake where
  /-- The peer has not answered yet. -/
  | undecided
  | accepted
  | refused
  deriving Repr, DecidableEq

inductive Frame where
  | text (body : String)
  /-- A frame that carries no text: binary data, a ping or a pong. -/
  | other
  /-- The peer closes the session, with a code and a reason or without. -/
  | close (status : Option (UInt16 × String))
  /-- The session breaks off. -/
  | broken (cause : String)
  deriving Repr, DecidableEq

/-- Whether a peer may close a session with this code. -/
def isCloseCode (code : UInt16) : Bool :=
  (1000 ≤ code && code ≤ 1003) || (1007 ≤ code && code ≤ 1013) || (3000 ≤ code && code ≤ 4999)

/-- The close frame as it is received: a code that may not be used is a fault of the protocol. -/
def Frame.received : Frame → Frame
  | .close (some (code, reason)) =>
    if isCloseCode code then .close (some (code, reason))
    else .close (some (1002, "Protocol violation"))
  | f => f

/-- The code of a closing frame that has none. -/
def noStatusCode : UInt16 := 1005

/-- The end of a session as an error. -/
def Frame.end? : Frame → Option Error
  | .text _ | .other => none
  | .close (some (code, reason)) => some (.closed code reason)
  | .close none => some (.closed noStatusCode "no status")
  | .broken cause => some (.closed Error.abnormalCode cause)

/-- A session that the peer closed as it should. -/
def Error.isNormalClose : Error → Bool
  | .closed code _ => code = 1000 || code = noStatusCode
  | _ => false

/-! ## the loop -/

inductive Stage where
  /-- The loop has not yet run. -/
  | fresh
  | connecting
  | streaming
  | waiting (wake : Nat)
  | ended
  deriving Repr, DecidableEq

structure Loop where
  url : Url
  stage : Stage := .fresh
  attempt : Nat := 0

namespace Loop

/-- Starts an attempt. -/
def enter (l : Loop) (s : Sink) : Loop × Sink :=
  ({ l with stage := .connecting }, s.setState .connecting)

/-- Waits before the next attempt. -/
def backOff (b : Backoff) (now : Nat) (l : Loop) (s : Sink) : Loop × Sink :=
  let delay := b.delay l.attempt
  ({ l with stage := .waiting (now + delay) },
    (s.setState (.backingOff l.attempt)).note (.waiting delay l.attempt))

/-- The answer of the peer. -/
def answer (b : Backoff) (now : Nat) (h : Handshake) (l : Loop) (s : Sink) : Loop × Sink :=
  match h with
  | .undecided => (l, s)
  | .accepted => ({ l with stage := .streaming }, s.setState .streaming)
  | .refused => l.backOff b now (s.note (.failed l.attempt))

/-- A frame of a session: an event is published, other text is skipped, an end is waited out. -/
def frame (b : Backoff) (now : Nat) (f : Frame) (l : Loop) (s : Sink) : Loop × Sink :=
  if l.stage ≠ .streaming then (l, s)
  else
    match f.received with
    | .text body =>
      match Event.decode body with
      | .ok e => (l, s.publish e)
      | .error e => (l, s.note (.skipped (.undecodable e.message body)))
    | ending =>
      match ending.end? with
      | none => (l, s)
      | some cause =>
        let s := s.note (if cause.isNormalClose then .closedCleanly else .dropped cause)
        ({ l with attempt := 0 } : Loop).backOff b now s

/-- The frames of a session, one after the other. -/
def frames (b : Backoff) (now : Nat) (fs : List Frame) (l : Loop) (s : Sink) : Loop × Sink :=
  fs.foldl (fun (l, s) f => l.frame b now f s) (l, s)

/-- When the loop will wake by itself. -/
def wake? (l : Loop) : Option Nat :=
  match l.stage with
  | .waiting due => some due
  | _ => none

/-- The end of a wait. -/
def wake (now : Nat) (l : Loop) (s : Sink) : Loop × Sink :=
  match l.stage with
  | .waiting due =>
    if due ≤ now then ({ l with attempt := Backoff.next l.attempt } : Loop).enter s else (l, s)
  | _ => (l, s)

/-- Lets the loop run until it waits; `peer` answers attempts to connect. -/
def settle (b : Backoff) (now : Nat) (peer : Url → Handshake) (l : Loop) (s : Sink) : Loop × Sink :=
  let (l, s) :=
    match l.stage with
    | .fresh => l.enter s
    | .waiting _ => l.wake now s
    | .connecting | .streaming | .ended => (l, s)
  if l.stage = .connecting then l.answer b now (peer l.url) s else (l, s)

/-- Ends the loop. One that has not yet run starts its first attempt before it notices. -/
def cancel (l : Loop) (s : Sink) : Sink :=
  match l.stage with
  | .ended => s
  | .fresh => ((s.setState .connecting).markIdle).note .loopExit
  | .connecting | .streaming | .waiting _ => s.markIdle.note .loopExit

end Loop

/-- Starts a loop at an address, if it is the address of a feed. -/
def connect (url : Url) : Except Error Loop :=
  if url.scheme = "ws" ∨ url.scheme = "wss" then .ok { url }
  else .error (.invalidEndpoint url.render s!"unsupported scheme '{url.scheme}'")

end ProxyKeeper.Feed

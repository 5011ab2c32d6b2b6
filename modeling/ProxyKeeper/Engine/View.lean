import ProxyKeeper.IdMap
import ProxyKeeper.Instance.Basic
import ProxyKeeper.Profile.Basic

/-!
What an engine publishes: what it built, from which settings, and how each attempt ended. Views hold
no handles.
-/

namespace ProxyKeeper

/-- How an attempt to create a handle ended. -/
inductive Status where
  | running
  | failed (message : String)
  deriving Repr, DecidableEq

namespace Status

def isRunning : Status → Bool
  | .running => true
  | .failed _ => false

def failure? : Status → Option String
  | .running => none
  | .failed message => some message

end Status

/-- What an observer of any engine asks of a view. -/
class EngineView (V : Type) where
  /-- Whether the background service ought to be up. -/
  isRunning : V → Bool
  /-- The diagnostics of what failed, in a fixed order. -/
  failures : V → List String
  /-- The port at which the engine itself serves its events. -/
  activeEndpoint : V → Option UInt16

/-- The status of one instance and the connection its handle or failed attempt was built from. -/
structure InstanceStatus where
  fingerprint : Connection
  outcome : Status
  deriving DecidableEq

structure InstanceView where
  generation : Nat := 0
  /-- Whether a pass has set the time of the view. -/
  stamped : Bool := false
  instances : IdMap InstanceStatus := ∅
  deriving DecidableEq, Inhabited

namespace InstanceView

def runningCount (v : InstanceView) : Nat := v.instances.values.countP (·.outcome.isRunning)

def failedCount (v : InstanceView) : Nat := v.instances.size - v.runningCount

def isRunning (v : InstanceView) : Bool := v.instances.values.any (·.outcome.isRunning)

/-- The ids of what failed, with their messages. -/
def failed (v : InstanceView) : List (String × String) :=
  v.instances.entries.filterMap fun (id, s) => s.outcome.failure?.map fun message => (id, message)

def failures (v : InstanceView) : List String := v.failed.map fun (id, message) => s!"{id}: {message}"

end InstanceView

instance : EngineView InstanceView where
  isRunning := InstanceView.isRunning
  failures := InstanceView.failures
  activeEndpoint _ := none

structure ProfileView where
  generation : Nat := 0
  /-- Whether a pass has set the time of the view. -/
  stamped : Bool := false
  /-- The set that the attempt was made with. -/
  configUsed : Option ProfileSet := none
  /-- None while the engine is stopped or nothing is selected. -/
  outcome : Option Status := none
  deriving Repr, DecidableEq, Inhabited

namespace ProfileView

def isRunning (v : ProfileView) : Bool := v.outcome.any Status.isRunning

def failure? (v : ProfileView) : Option String := v.outcome.bind Status.failure?

/-- The port of the event API while the engine runs. -/
def activeEndpoint (v : ProfileView) : Option UInt16 :=
  if v.isRunning then v.configUsed.map (·.apiServerPort) else none

end ProfileView

instance : EngineView ProfileView where
  isRunning := ProfileView.isRunning
  failures v := v.failure?.toList
  activeEndpoint := ProfileView.activeEndpoint

end ProxyKeeper

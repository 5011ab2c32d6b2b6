import ProxyKeeper.Engine.Ledger
import ProxyKeeper.Failure
import ProxyKeeper.Watch

/-!
Engines. An engine holds handles that it makes to fit a snapshot of what is wanted, and publishes a
view of them after every pass over it. It can be started and stopped; while it is stopped it wants
nothing. A background task runs a pass whenever the snapshot or the started flag has changed since
the last.

What an engine holds, and what one pass does, is its `Trade`; the rest is the same for every engine.
-/

namespace ProxyKeeper

/-- The part of an engine that depends on what it manages. -/
structure Trade (S P H V : Type) where
  /-- What is held in the beginning. -/
  nothing : H
  /-- One pass: what is held and the ledger afterwards. Without a snapshot nothing is wanted. -/
  pass : Factory P → Option S → H × Ledger P → H × Ledger P
  /-- The view of what is held after the pass of this number. -/
  view : Nat → H → V
  /-- The view before the first pass. -/
  initialView : V

/-- Where the background task of an engine stands. -/
inductive DriveTask where
  | absent
  /-- Spawned, but it has not yet run. -/
  | ready
  /-- Waiting for a change of the started flag or of the snapshot. -/
  | waiting (started source : Watcher)
  /-- The source of snapshots is gone; only the end is waited for. -/
  | holding
  deriving Repr, DecidableEq

structure Engine (S P H V : Type) where
  held : H
  ledger : Ledger P
  generation : Nat
  view : Watch V
  started : Watch Bool
  task : DriveTask
  /-- Whether the engine has been shut down. -/
  cancelled : Bool

namespace Engine

variable {S P H V : Type}

def create (trade : Trade S P H V) : Engine S P H V :=
  { held := trade.nothing, ledger := .empty, generation := 0
    view := { value := trade.initialView }
    started := { value := false }, task := .absent, cancelled := false }

def isStarted (e : Engine S P H V) : Bool := e.started.value

/-! ## passes -/

/-- Runs one pass and publishes the view of it. -/
def apply (trade : Trade S P H V) (factory : Factory P) (wanted : Option S) (e : Engine S P H V) :
    Engine S P H V :=
  let (held, ledger) := trade.pass factory wanted (e.held, e.ledger)
  let generation := e.generation + 1
  { e with held, ledger, generation, view := e.view.publish (trade.view generation held) }

/-- One pass against a snapshot; while the engine is stopped nothing is wanted. -/
def reconcile (trade : Trade S P H V) (factory : Factory P) (snapshot : S) (e : Engine S P H V) :
    Engine S P H V :=
  e.apply trade factory (if e.isStarted then some snapshot else none)

/-- Sets the started flag; watchers are told only of a real change. -/
def setStarted (value : Bool) (e : Engine S P H V) : Engine S P H V :=
  if e.started.value = value then e else { e with started := e.started.publish value }

def start (e : Engine S P H V) : Engine S P H V := e.setStarted true

def stop (e : Engine S P H V) : Engine S P H V := e.setStarted false

/-! ## the background task -/

/-- Starts the background task; an engine has one at most, and none after its shutdown. -/
def spawn (e : Engine S P H V) : Engine S P H V × Check :=
  if e.task ≠ .absent then (e, .error (.internal "engine task already running"))
  else if e.cancelled then (e, .error (.internal "engine has been shut down"))
  else ({ e with task := .ready }, .ok ())

/-- The step in which the task runs a pass with the latest snapshot and flag, and waits again. The
source is looked at once more: if it is gone, there is nothing left to wait for. -/
def passAndWait (trade : Trade S P H V) (factory : Factory P) (source : Watch S)
    (e : Engine S P H V) : Engine S P H V :=
  let after := e.reconcile trade factory source.value
  { after with
    task := if source.live then .waiting e.started.subscribe source.subscribe else .holding }

/-- Lets the task run until it waits. -/
def settle (trade : Trade S P H V) (factory : Factory P) (source : Watch S) (e : Engine S P H V) :
    Engine S P H V :=
  match e.task with
  | .absent | .holding => e
  | .ready => e.passAndWait trade factory source
  | .waiting started seen =>
    match e.started.notice started, source.notice seen with
    | .changed, _ => e.passAndWait trade factory source
    | _, .changed => e.passAndWait trade factory source
    | _, .closed => { e with task := .holding }
    | _, .pending => e

/-- Ends the task, which runs its first pass if it has not yet done so, and releases every handle. -/
def shutdown (trade : Trade S P H V) (factory : Factory P) (source : Watch S) (e : Engine S P H V) :
    Engine S P H V :=
  let e := if e.task = .ready then e.passAndWait trade factory source else e
  let e := { e with task := .absent, cancelled := true }
  (e.setStarted false).apply trade factory none

/-- Lets go of the engine. Its view is published no longer, unless a task still runs. -/
def release (e : Engine S P H V) : Engine S P H V :=
  if e.task = .absent then { e with view := e.view.close } else e

end Engine

end ProxyKeeper

import ProxyKeeper.Engine.View
import ProxyKeeper.Watch

/-!
The coordinator of the service that runs beside an engine: it starts the service when the published
view starts to run, stops it when the view ceases to, and reports every failure that the view before
did not have.
-/

namespace ProxyKeeper

/-- A call into the host. -/
inductive HookCall where
  | startService
  | stopService
  | reportFailure (message : String)
  deriving Repr, DecidableEq

/-- Where a task that observes a watched value stands. -/
inductive ObserverTask where
  /-- It has not yet run. -/
  | ready
  | waiting (watcher : Watcher)
  /-- The publisher is gone; only the end is waited for. -/
  | holding
  | ended
  deriving Repr, DecidableEq

structure Coordinator where
  task : ObserverTask := .ready
  /-- Whether the service was started and not stopped since. -/
  serviceUp : Bool := false
  /-- The failures of the view observed last. -/
  reported : List String := []
  /-- All calls so far, in order. -/
  calls : List HookCall := []
  deriving Repr, DecidableEq

namespace Coordinator

/-- The call that brings the service to where it should be. -/
def serviceCalls (isUp shouldRun : Bool) : List HookCall :=
  if isUp = shouldRun then [] else if shouldRun then [.startService] else [.stopService]

/-- Observes a view: first the service, then the failures that are new. -/
def observe {V : Type} [EngineView V] (v : V) (c : Coordinator) : Coordinator :=
  let shouldRun := EngineView.isRunning v
  let failures := EngineView.failures v
  let fresh := failures.filter fun m => !c.reported.contains m
  { c with
    serviceUp := shouldRun
    reported := failures
    calls := c.calls ++ serviceCalls c.serviceUp shouldRun ++ fresh.map .reportFailure }

/-- Observes the latest view and waits for the next; a view without publisher is held. -/
def observeAndWait {V : Type} [EngineView V] (views : Watch V) (c : Coordinator) : Coordinator :=
  { c.observe views.value with
    task := if views.live then .waiting views.subscribe else .holding }

/-- Lets the task run until it waits. -/
def settle {V : Type} [EngineView V] (views : Watch V) (c : Coordinator) : Coordinator :=
  match c.task with
  | .ready => c.observeAndWait views
  | .waiting watcher =>
    match views.notice watcher with
    | .changed => c.observeAndWait views
    | .pending => c
    | .closed => { c with task := .holding }
  | .holding | .ended => c

/-- Ends the task, which observes once if it has not yet run; a service that is up is stopped. -/
def shutdown {V : Type} [EngineView V] (views : Watch V) (c : Coordinator) : Coordinator :=
  match c.task with
  | .ended => c
  | _ =>
    let c := if c.task = .ready then c.observe views.value else c
    { c with
      task := .ended
      serviceUp := false
      calls := c.calls ++ serviceCalls c.serviceUp false }

end Coordinator

end ProxyKeeper

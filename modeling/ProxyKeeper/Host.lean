import ProxyKeeper.Engine.Instances
import ProxyKeeper.Engine.Profile
import ProxyKeeper.Ingestion
import ProxyKeeper.Store.Instances
import ProxyKeeper.Store.Profiles

/-!
The host: a store, an engine that follows the store, and two observers of the engine's view. One
follows the port of the engine's events, the other runs the service beside the engine. The journal
of the host is every call to the factory and to the service, in the order in which they were made.
-/

namespace ProxyKeeper

open Feed

structure HostSettings where
  ingest : IngestSettings := {}
  /-- Whether the engine is started with the host. -/
  autostart : Bool := true
  /-- The port of the events while the engine runs, if the engine does not tell. -/
  feedPort : Option UInt16 := none
  deriving Inhabited

/-- A call that the host makes to the outside. -/
inductive HostCall (P : Type) where
  | factory (call : FactoryCall P)
  | hook (call : HookCall)

structure Host (S P H V : Type) where
  /-- The snapshots of the store. -/
  store : Watch S
  engine : Engine S P H V
  ingestion : Ingestion
  coordinator : Coordinator
  feedPort : Option UInt16
  calls : List (HostCall P)

namespace Host

variable {S P H V : Type}

/-- The port at which there are events: while the engine runs the one that it tells, else the one
that is configured. -/
def portOf [EngineView V] (feedPort : Option UInt16) (v : V) : Option UInt16 :=
  if EngineView.isRunning v then (EngineView.activeEndpoint v).orElse fun _ => feedPort else none

/-! ## steps of the parts -/

/-- A step of the engine, with the calls it makes. -/
def withEngine (step : Engine S P H V → Engine S P H V) (h : Host S P H V) : Host S P H V :=
  let engine := step h.engine
  let fresh := engine.ledger.calls.drop h.engine.ledger.calls.length
  { h with engine, calls := h.calls ++ fresh.map .factory }

/-- A step of the coordinator, with the calls it makes. -/
def withCoordinator (step : Coordinator → Coordinator) (h : Host S P H V) : Host S P H V :=
  let coordinator := step h.coordinator
  let fresh := coordinator.calls.drop h.coordinator.calls.length
  { h with coordinator, calls := h.calls ++ fresh.map .hook }

def withIngestion (step : Ingestion → Ingestion) (h : Host S P H V) : Host S P H V :=
  { h with ingestion := step h.ingestion }

/-- An operation on the store. -/
def withStore {β : Type} (step : Watch S → Watch S × β) (h : Host S P H V) : Host S P H V × β :=
  let (store, result) := step h.store
  ({ h with store }, result)

/-! ## life -/

/-- A host whose tasks are spawned and have not yet run. -/
def start (trade : Trade S P H V) (settings : HostSettings) (store : Watch S) : Host S P H V :=
  let engine := (Engine.create trade).spawn.1
  { store
    engine := if settings.autostart then engine.start else engine
    ingestion := .create settings.ingest
    coordinator := {}
    feedPort := settings.feedPort
    calls := [] }

/-- Starts a host where there is room for the channel of its events; that fails if the task of the engine cannot be
spawned. -/
def launch (m : Memory) (trade : Trade S P H V) (settings : HostSettings) (store : Watch S) :
    Except (Stop Failure) (Host S P H V) := do
  (Engine.create trade).spawn.2.mapError .failed
  let ingestion ← (Ingestion.allocate m settings.ingest).mapError .crashed
  return { start trade settings store with ingestion }

/-- Lets every task run until it waits: the engine first, then the observers of its view. -/
def settle [EngineView V] (trade : Trade S P H V) (factory : Factory P) (now : Nat)
    (peer : Url → Handshake) (h : Host S P H V) : Host S P H V :=
  let h := h.withEngine (·.settle trade factory h.store)
  let h := h.withIngestion (·.settle (portOf h.feedPort) h.engine.view now peer)
  h.withCoordinator (·.settle h.engine.view)

/-- Ends everything: the coordinator, then the ingestion, then the engine. A pass that is due when
the end begins is still run. -/
def shutdown [EngineView V] (trade : Trade S P H V) (factory : Factory P) (h : Host S P H V) :
    Host S P H V :=
  let h := h.withEngine (·.settle trade factory h.store)
  let h := h.withCoordinator (·.shutdown h.engine.view)
  let h := h.withIngestion (·.shutdown (portOf h.feedPort) h.engine.view)
  h.withEngine (·.shutdown trade factory h.store)

end Host

end ProxyKeeper

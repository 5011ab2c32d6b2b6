/-
The end of a host: the coordinator ends, then the ingestion, then the engine,
and whoever shares the host may act in between (`teardown`; the end that the
program runs is one with a single pause, `shutdown_eq_teardown`).

Two invariants carry it. `Recorded` holds of every host whatever is done to
it: its engine's record is one that passes left, and its journal is made of
the calls of its parts. `Calm` holds of a host at rest as long as only its
own tasks are let run: nothing is due, so nothing is called. The last pass
wants nothing, so all its calls are releases (`Releases`), and no hook is
called once the coordinator has ended.
-/
import ProxyKeeper.Proofs.Coordinator.Run
import ProxyKeeper.Proofs.Engine.Handles
import ProxyKeeper.Proofs.Engine.SingleHandle
import ProxyKeeper.Proofs.Feed.Conduct
import ProxyKeeper.Proofs.Host.Pipeline
import ProxyKeeper.Proofs.Host.Supply

namespace ProxyKeeper

open Feed

/-- What may be done to a host by its own tasks, its users, and whoever shares its engine or its ingestion. -/
inductive HostAct (O S : Type) where
  | own (m : HostMove O)
  | engine (m : Move S)
  /-- The ingestion is ended early. -/
  | endIngestion

/-- The moves of the tasks of a host, without anything from outside. -/
def HostMove.isTask {O : Type} : HostMove O → Bool
  | .engineTask | .ingestionTask | .coordinatorTask | .feedLoop .. | .receive .. | .settle .. => true
  | .store _ | .start | .stop => false

/-- A task of the host is let run. -/
def HostAct.isTask {O S : Type} : HostAct O S → Bool
  | .own m => m.isTask
  | .engine _ | .endIngestion => false

variable {O S P H V : Type}

theorem Coordinator.ended_settle [EngineView V] (views : Watch V) (c : Coordinator) :
    (c.settle views).task = .ended ↔ c.task = .ended := by
  rw [task_settle]
  split
  · rename_i hd
    have hne : c.task ≠ .ended := fun h => by simp [h, ObserverTask.isDue] at hd
    split <;> simp [hne]
  · split
    · exact Iff.rfl
    · split <;> simp_all

theorem Coordinator.balanced_shutdown [EngineView V] {c : Coordinator} (h : c.Balanced) (views : Watch V) :
    (c.shutdown views).Balanced := by
  rcases shutdown_cases views c with ⟨-, hs⟩ | ⟨-, d, hd, hs⟩
  · rwa [hs]
  · have hbalanced : d.Balanced := by
      rcases hd with ⟨-, rfl⟩ | ⟨-, rfl⟩
      · exact balanced_observe h views.value
      · exact h
    rw [hs]
    simp only [Balanced, List.count_append] at hbalanced ⊢
    cases hup : d.serviceUp <;> simp [hup, serviceCalls] at hbalanced ⊢ <;> omega

theorem Coordinator.calls_shutdown [EngineView V] (views : Watch V) (c : Coordinator) :
    c.calls <+: (c.shutdown views).calls := by
  rcases shutdown_cases views c with ⟨-, hs⟩ | ⟨-, d, hd, hs⟩
  · exact (congrArg Coordinator.calls hs).symm ▸ List.prefix_refl c.calls
  · have hcalls : c.calls <+: d.calls := by
      rcases hd with ⟨-, rfl⟩ | ⟨-, rfl⟩
      · exact calls_observe views.value c
      · exact List.prefix_refl _
    rw [hs]
    exact hcalls.trans (List.prefix_append _ _)

theorem Coordinator.serviceUp_shutdown [EngineView V] (views : Watch V) {c : Coordinator} (h : c.task ≠ .ended) :
    (c.shutdown views).serviceUp = false := by
  rcases shutdown_cases views c with ⟨ht, -⟩ | ⟨-, d, -, hs⟩
  · exact absurd ht h
  · rw [hs]

/-- An ingestion that has ended: there is no loop, and the feed is idle. -/
structure Ingestion.Closed (i : Ingestion) : Prop where
  task : i.task = .ended
  loop : i.loop = none
  state : i.sink.state.value = .idle

namespace Ingestion

variable {portOf : V → Option UInt16}

theorem closed_shutdown (views : Watch V) (i : Ingestion) : (i.shutdown portOf views).Closed where
  task := rfl
  loop := rfl
  state := Sink.value_setState _ _

theorem Closed.settleTask {i : Ingestion} (hc : i.Closed) (views : Watch V) :
    (i.settleTask portOf views).Closed := by
  rw [Ingestion.settleTask, hc.task]
  exact hc

theorem Closed.withLoop {i : Ingestion} (hc : i.Closed) (step : Loop → Sink → Loop × Sink) :
    (i.withLoop step).Closed := by
  rw [Ingestion.withLoop, hc.loop]
  exact hc

end Ingestion

namespace Host

/-- A move of the engine beside the snapshots that it follows. -/
def withWorld (trade : Trade S P H V) (factory : Factory P) (m : Move S) (h : Host S P H V) : Host S P H V :=
  { h.withEngine fun e => (World.step trade factory ⟨e, h.store⟩ m).engine with
    store := (h.world.step trade factory m).source }

section

variable {trade : Trade S P H V} {factory : Factory P} {calledFor : S → P → Prop} {h : Host S P H V}

theorem calls_withEngine {f : Engine S P H V → Engine S P H V} {fresh : List (FactoryCall P)}
    (hf : (f h.engine).ledger.calls = h.engine.ledger.calls ++ fresh) :
    (h.withEngine f).calls = h.calls ++ fresh.map .factory := by
  simp only [Host.withEngine, hf, List.drop_left]

/-! ## a host with nothing to do -/

/-- Neither the engine nor the coordinator has anything to do. -/
structure Calm (h : Host S P H V) : Prop where
  engine : h.engine.isDue h.store = false
  coordinator : h.coordinator.task.isDue h.engine.view = false

/-- Nothing was called, and there is still nothing to do. -/
structure Still (h h' : Host S P H V) : Prop extends h'.Calm where
  calls : h'.calls = h.calls
  record : h'.engine.record = h.engine.record
  same : h'.coordinator = h.coordinator

theorem Still.trans {h h' h'' : Host S P H V} (first : h.Still h') (second : h'.Still h'') : h.Still h'' where
  toCalm := second.toCalm
  calls := second.calls.trans first.calls
  record := second.record.trans first.record
  same := second.same.trans first.same

theorem Calm.refl (hc : h.Calm) : h.Still h := ⟨hc, rfl, rfl, rfl⟩

theorem Calm.engineTask (hc : h.Calm) : h.Still (h.withEngine (·.settle trade factory h.store)) := by
  have hcalls : h.calls ++ (h.engine.ledger.calls.drop h.engine.ledger.calls.length).map .factory = h.calls := by
    rw [List.drop_length]
    exact List.append_nil _
  rcases Engine.settle_cases trade factory h.store h.engine with ⟨hd, -⟩ | ⟨-, hs | ⟨hl, hs⟩⟩
  · exact absurd (hc.engine.symm.trans hd) (by decide)
  · simp only [Host.withEngine, hs]
    exact ⟨⟨hc.engine, hc.coordinator⟩, hcalls, rfl, rfl⟩
  · simp only [Host.withEngine, hs]
    exact ⟨⟨rfl, hc.coordinator⟩, hcalls, rfl, rfl⟩

theorem Calm.withIngestion (hc : h.Calm) (f : Ingestion → Ingestion) : h.Still (h.withIngestion f) :=
  ⟨⟨hc.engine, hc.coordinator⟩, rfl, rfl, rfl⟩

/-! ## the last pass -/

/-- A pass that wants nothing releases what is held, in order, and then nothing is alive. -/
structure Releases (trade : Trade S P H V) (factory : Factory P) (handles : H → List Nat) : Prop where
  calls : ∀ r : Record P H V, (r.pass trade factory none).ledger.calls =
    r.ledger.calls ++ (handles r.held).map .destroy
  alive : ∀ done : List (Option S),
    ((done.foldl (Record.pass trade factory) (.initial trade)).pass trade factory none).ledger.alive = []

/-- What a host has come to when its end is over. -/
structure Over (trade : Trade S P H V) (factory : Factory P) (handles : H → List Nat) (h : Host S P H V) : Prop where
  released : h.engine.ledger.alive = []
  service : (hooks h.calls).count .startService = (hooks h.calls).count .stopService
  feed : h.ingestion.sink.state.value = .idle
  /-- The calls of the last pass are the last calls, and they are all releases. -/
  last : ∃ (before : List (HostCall P)) (r : Record P H V), factoryCalls before = r.ledger.calls ∧
    h.engine.record = r.pass trade factory none ∧
    h.calls = before ++ (handles r.held).map fun handle => .factory (.destroy handle)

/-- The passes of the end of an engine in front of the last: the first one of its task, if it is still due. -/
def duePass (h : Host S P H V) : List (Option S) :=
  if h.engine.task = .ready then [h.engine.wanted h.store.value] else []

/-- The record in front of the last pass. -/
def recordDue (trade : Trade S P H V) (factory : Factory P) (h : Host S P H V) : Record P H V :=
  h.duePass.foldl (Record.pass trade factory) h.engine.record

theorem record_endEngine : (h.engine.shutdown trade factory h.store).record =
    (h.recordDue trade factory).pass trade factory none := by
  have hrecord := World.record_shutdown trade factory h.world
  rw [World.passes, List.foldl_append] at hrecord
  exact hrecord

/-- The first pass of an engine with nothing to do is not due. -/
theorem Calm.recordDue (hc : h.Calm) : h.recordDue trade factory = h.engine.record := by
  have hready : h.engine.task ≠ .ready := fun ht => by
    have hd := hc.engine
    rw [Engine.isDue, ht] at hd
    cases hd
  rw [Host.recordDue, duePass, if_neg hready]
  rfl

/-- The calls of the end of an engine: those of the pass that is still due, and the releases of the last. -/
theorem calls_endEngine (ha : trade.Asks calledFor) {handles : H → List Nat} (hl : Releases trade factory handles) :
    ∃ fresh : List (FactoryCall P),
      (h.recordDue trade factory).ledger.calls = h.engine.ledger.calls ++ fresh ∧
      (h.withEngine (·.shutdown trade factory h.store)).calls = h.calls ++ fresh.map .factory ++
        (handles (h.recordDue trade factory).held).map fun handle => .factory (.destroy handle) := by
  have hadds : ∃ fresh, (h.recordDue trade factory).ledger.calls = h.engine.record.ledger.calls ++ fresh ∧
      ∀ params ∈ FactoryCall.requests fresh, True :=
    World.calls_foldl factory ha (fun _ _ _ _ => trivial) h.engine.record
  obtain ⟨fresh, hfresh, -⟩ := hadds
  refine ⟨fresh, hfresh, ?_⟩
  have hledger : (h.engine.shutdown trade factory h.store).ledger.calls = h.engine.ledger.calls ++
      (fresh ++ (handles (h.recordDue trade factory).held).map .destroy) := by
    rw [← List.append_assoc]
    calc (h.engine.shutdown trade factory h.store).ledger.calls
        = ((h.recordDue trade factory).pass trade factory none).ledger.calls :=
          congrArg Record.ledger record_endEngine ▸ rfl
      _ = h.engine.ledger.calls ++ fresh ++ (handles (h.recordDue trade factory).held).map .destroy := by
          rw [hl.calls, hfresh]
          rfl
  rw [calls_withEngine hledger, List.map_append, List.map_map, List.append_assoc]
  rfl

end

variable [EngineView V]

/-! ## acts -/

def act (api : StoreApi O S) (trade : Trade S P H V) (factory : Factory P) (h : Host S P H V) :
    HostAct O S → Host S P H V
  | .own m => h.step api trade factory m
  | .engine m => h.withWorld trade factory m
  | .endIngestion => h.withIngestion (·.shutdown (portOf h.feedPort) h.engine.view)

def acts (api : StoreApi O S) (trade : Trade S P H V) (factory : Factory P) (as : List (HostAct O S))
    (h : Host S P H V) : Host S P H V :=
  as.foldl (act api trade factory) h

/-- What is done during the end of a host: before the coordinator has ended, then before the ingestion has,
then before the last pass. -/
structure Pauses (O S : Type) where
  first : List (HostAct O S)
  second : List (HostAct O S)
  third : List (HostAct O S)

/-- The end of a host, with what is done meanwhile. -/
def teardown (api : StoreApi O S) (trade : Trade S P H V) (factory : Factory P) (pauses : Pauses O S)
    (h : Host S P H V) : Host S P H V :=
  let h := h.acts api trade factory pauses.first
  let h := h.withCoordinator (·.shutdown h.engine.view)
  let h := h.acts api trade factory pauses.second
  let h := h.withIngestion (·.shutdown (portOf h.feedPort) h.engine.view)
  let h := h.acts api trade factory pauses.third
  h.withEngine (·.shutdown trade factory h.store)

/-- The end of the program is the one in which the task of the engine runs once at first. -/
theorem shutdown_eq_teardown (api : StoreApi O S) (trade : Trade S P H V) (factory : Factory P)
    (h : Host S P H V) : h.shutdown trade factory = h.teardown api trade factory ⟨[.own .engineTask], [], []⟩ := rfl

/-! ## what holds of every host -/

/-- The record of the engine is one that passes left, and the journal is made of the calls of the parts. -/
structure Recorded (trade : Trade S P H V) (factory : Factory P) (h : Host S P H V) : Prop where
  passes : ∃ done : List (Option S), h.engine.record = done.foldl (Record.pass trade factory) (.initial trade)
  tracks : h.coordinator.task ≠ .ended → h.coordinator.Tracks h.engine.view
  balanced : h.coordinator.Balanced
  served : hooks h.calls = h.coordinator.calls
  made : factoryCalls h.calls = h.engine.ledger.calls

section

variable {api : StoreApi O S} {trade : Trade S P H V} {factory : Factory P} {calledFor : S → P → Prop}
  {h : Host S P H V}

theorem recorded_start (trade : Trade S P H V) (factory : Factory P) (settings : HostSettings) (store : Watch S) :
    (start trade settings store).Recorded trade factory := by
  have hrecord : (start trade settings store).engine.record = .initial trade := by
    rw [start]
    dsimp only
    split
    · exact Engine.record_setStarted (Engine.create trade).spawn.1 true
    · rfl
  exact ⟨⟨[], hrecord⟩, fun _ => trivial, rfl, rfl, congrArg (·.ledger.calls) hrecord.symm⟩

/-- What every pass keeps holds of the record of the engine. -/
theorem Recorded.keeps (hr : h.Recorded trade factory) {I : Record P H V → Prop}
    (pass : ∀ r wanted, I r → I (r.pass trade factory wanted)) (initial : I (.initial trade)) : I h.engine.record := by
  obtain ⟨done, hdone⟩ := hr.passes
  rw [hdone]
  exact Record.foldl_keeps trade factory pass initial done

/-- The view of an engine that is there is published. -/
theorem Recorded.live (hr : h.Recorded trade factory) : h.engine.view.live = true :=
  hr.keeps (I := fun r => r.view.live = true) (fun _ _ hl => hl) rfl

theorem Recorded.withEngine (hr : h.Recorded trade factory) (ha : trade.Asks calledFor) {m : Move S}
    {f : Engine S P H V → Engine S P H V} (hf : f h.engine = (h.world.step trade factory m).engine) :
    (h.withEngine f).Recorded trade factory := by
  have hrecord : (f h.engine).record = (h.world.passes m).foldl (Record.pass trade factory) h.engine.record := by
    rw [hf]
    exact World.record_step trade factory h.world m
  have hadds : ∃ fresh, ((h.world.passes m).foldl (Record.pass trade factory) h.engine.record).ledger.calls =
      h.engine.record.ledger.calls ++ fresh ∧ ∀ params ∈ FactoryCall.requests fresh, True :=
    World.calls_foldl factory ha (fun _ _ _ _ => trivial) h.engine.record
  obtain ⟨fresh, hfresh, -⟩ := hadds
  rw [← hrecord] at hfresh
  have hcalls : (h.withEngine f).calls = h.calls ++ fresh.map .factory := calls_withEngine hfresh
  obtain ⟨done, hdone⟩ := hr.passes
  refine ⟨⟨done ++ h.world.passes m, ?_⟩, fun ht => ?_, hr.balanced, ?_, ?_⟩
  · rw [List.foldl_append, ← hdone]
    exact hrecord
  · have htracks := World.view_step trade factory (I := fun view => h.coordinator.Tracks view)
      (fun _ v hv => hv.publish v) (w := h.world) (hr.tracks ht) m
    rw [← hf] at htracks
    exact htracks
  · rw [hcalls, hooks_append, hooks_factory, List.append_nil]
    exact hr.served
  · rw [hcalls, factoryCalls_append, factoryCalls_factory, hr.made]
    exact hfresh.symm

theorem Recorded.withStore (hr : h.Recorded trade factory) (store : Watch S) :
    { h with store }.Recorded trade factory := ⟨hr.passes, hr.tracks, hr.balanced, hr.served, hr.made⟩

theorem Recorded.withIngestion (hr : h.Recorded trade factory) (f : Ingestion → Ingestion) :
    (h.withIngestion f).Recorded trade factory := ⟨hr.passes, hr.tracks, hr.balanced, hr.served, hr.made⟩

theorem Recorded.withCoordinator (hr : h.Recorded trade factory) {f : Coordinator → Coordinator}
    (htracks : (f h.coordinator).task ≠ .ended → (f h.coordinator).Tracks h.engine.view)
    (hbalanced : (f h.coordinator).Balanced) (hcalls : h.coordinator.calls <+: (f h.coordinator).calls) :
    (h.withCoordinator f).Recorded trade factory := by
  obtain ⟨fresh, hfresh⟩ := hcalls
  have hjournal : (h.withCoordinator f).calls = h.calls ++ fresh.map .hook := by
    simp only [Host.withCoordinator, ← hfresh, List.drop_left]
  refine ⟨hr.passes, htracks, hbalanced, ?_, ?_⟩
  · rw [hjournal, hooks_append, hooks_hook, hr.served]
    exact hfresh
  · rw [hjournal, factoryCalls_append, factoryCalls_hook, List.append_nil]
    exact hr.made

theorem Recorded.coordinatorTask (hr : h.Recorded trade factory) :
    (h.withCoordinator (·.settle h.engine.view)).Recorded trade factory := by
  refine hr.withCoordinator (fun ht => ?_) (Coordinator.balanced_settle hr.live hr.balanced)
    (Coordinator.calls_settle hr.live h.coordinator)
  by_cases hended : h.coordinator.task = .ended
  · simp [Coordinator.settle, hended] at ht
  · exact (Coordinator.tracks_settle hr.live (hr.tracks hended)).1

theorem Recorded.act (hr : h.Recorded trade factory) (ha : trade.Asks calledFor) (a : HostAct O S) :
    (h.act api trade factory a).Recorded trade factory := by
  cases a with
  | endIngestion => exact hr.withIngestion _
  | engine m => exact (hr.withEngine ha (m := m) rfl).withStore _
  | own m =>
    cases m with
    | store op => exact hr.withStore _
    | start => exact hr.withEngine ha (m := .start) rfl
    | stop => exact hr.withEngine ha (m := .stop) rfl
    | engineTask => exact hr.withEngine ha (m := .settle) rfl
    | ingestionTask | feedLoop | receive => exact hr.withIngestion _
    | coordinatorTask => exact hr.coordinatorTask
    | settle now peer =>
      exact ((hr.withEngine ha (m := .settle) rfl).withIngestion _).coordinatorTask

theorem Recorded.acts (hr : h.Recorded trade factory) (ha : trade.Asks calledFor) (as : List (HostAct O S)) :
    (h.acts api trade factory as).Recorded trade factory :=
  List.foldlRecOn _ _ hr fun _ hr a _ => hr.act ha a

/-! ## letting the tasks of a calm host run -/

theorem Calm.coordinatorTask (hc : h.Calm) (hl : h.engine.view.live = true) :
    h.Still (h.withCoordinator (·.settle h.engine.view)) := by
  have hs : h.coordinator.settle h.engine.view = h.coordinator := by
    rw [Coordinator.settle_eq hl, if_neg (by rw [hc.coordinator]; decide)]
  simp only [Host.withCoordinator, hs, List.drop_length]
  exact ⟨⟨hc.engine, hc.coordinator⟩, List.append_nil _, rfl, rfl⟩

theorem Calm.act (hc : h.Calm) (hr : h.Recorded trade factory) {a : HostAct O S} (ht : a.isTask = true) :
    h.Still (h.act api trade factory a) := by
  cases a with
  | engine | endIngestion => cases ht
  | own m =>
    cases m with
    | store | start | stop => cases ht
    | engineTask => exact hc.engineTask
    | ingestionTask | feedLoop | receive => exact hc.withIngestion _
    | coordinatorTask => exact hc.coordinatorTask hr.live
    | settle now peer =>
      have engine : h.Still (h.withEngine (·.settle trade factory h.store)) := hc.engineTask
      have hl : (h.withEngine (·.settle trade factory h.store)).engine.view.live = true :=
        (congrArg (·.view.live) engine.record).trans hr.live
      have ingestion := engine.trans (engine.toCalm.withIngestion
        (·.settle (portOf h.feedPort) (h.withEngine (·.settle trade factory h.store)).engine.view now peer))
      exact ingestion.trans (ingestion.toCalm.coordinatorTask hl)

theorem Calm.acts (hc : h.Calm) (hr : h.Recorded trade factory) (ha : trade.Asks calledFor) {as : List (HostAct O S)}
    (ht : ∀ a ∈ as, a.isTask = true) : h.Still (h.acts api trade factory as) := by
  induction as generalizing h with
  | nil => exact hc.refl
  | cons a rest ih =>
    have first : h.Still (h.act api trade factory a) := hc.act hr (ht a List.mem_cons_self)
    exact first.trans (ih first.toCalm (hr.act ha a) fun b hb => ht b (List.mem_cons_of_mem a hb))

/-! ## parts that have ended -/

/-- No act ends the coordinator. -/
theorem ended_act (a : HostAct O S) :
    (h.act api trade factory a).coordinator.task = .ended ↔ h.coordinator.task = .ended := by
  cases a with
  | endIngestion | engine => exact Iff.rfl
  | own m =>
    cases m with
    | store | start | stop | engineTask | ingestionTask | feedLoop | receive => exact Iff.rfl
    | coordinatorTask | settle => exact Coordinator.ended_settle _ _

theorem ended_acts (as : List (HostAct O S)) :
    (h.acts api trade factory as).coordinator.task = .ended ↔ h.coordinator.task = .ended := by
  induction as generalizing h with
  | nil => exact Iff.rfl
  | cons a rest ih => exact ih.trans (ended_act a)

/-- Once the coordinator has ended it is left as it is. -/
theorem coordinator_act (ht : h.coordinator.task = .ended) (a : HostAct O S) :
    (h.act api trade factory a).coordinator = h.coordinator := by
  have hs : ∀ views : Watch V, h.coordinator.settle views = h.coordinator := fun views => by
    rw [Coordinator.settle, ht]
  cases a with
  | endIngestion | engine => rfl
  | own m =>
    cases m with
    | store | start | stop | engineTask | ingestionTask | feedLoop | receive => rfl
    | coordinatorTask | settle => exact hs _

theorem coordinator_acts (ht : h.coordinator.task = .ended) (as : List (HostAct O S)) :
    (h.acts api trade factory as).coordinator = h.coordinator := by
  induction as generalizing h with
  | nil => rfl
  | cons a rest ih =>
    have hact : (h.act api trade factory a).coordinator = h.coordinator := coordinator_act ht a
    exact (ih (by rw [hact, ht])).trans hact

theorem closed_act (hc : h.ingestion.Closed) (a : HostAct O S) : (h.act api trade factory a).ingestion.Closed := by
  cases a with
  | endIngestion => exact Ingestion.closed_shutdown _ _
  | engine => exact hc
  | own m =>
    cases m with
    | store | start | stop | engineTask | coordinatorTask => exact hc
    | ingestionTask => exact hc.settleTask _
    | feedLoop now peer => exact hc.withLoop (·.settle h.ingestion.settings.backoff now peer)
    | receive now frames => exact hc.withLoop (·.frames h.ingestion.settings.backoff now frames)
    | settle now peer =>
      exact (hc.settleTask _).withLoop (·.settle h.ingestion.settings.backoff now peer)

theorem closed_acts (hc : h.ingestion.Closed) (as : List (HostAct O S)) :
    (h.acts api trade factory as).ingestion.Closed := by
  induction as generalizing h with
  | nil => exact hc
  | cons a rest ih => exact ih (closed_act hc a)

/-! ## the end -/

theorem Recorded.endCoordinator (hr : h.Recorded trade factory) :
    (h.withCoordinator (·.shutdown h.engine.view)).Recorded trade factory :=
  hr.withCoordinator (fun ht => absurd (Coordinator.task_shutdown _ _) ht)
    (Coordinator.balanced_shutdown hr.balanced _) (Coordinator.calls_shutdown _ _)

/-- The end of a coordinator that has looked at the view stops the service if it is up. -/
theorem calls_endCoordinator (hended : h.coordinator.task ≠ .ended) (hready : h.coordinator.task ≠ .ready) :
    (h.withCoordinator (·.shutdown h.engine.view)).calls =
      h.calls ++ if h.coordinator.serviceUp then [.hook .stopService] else [] := by
  have hcalls : (h.coordinator.shutdown h.engine.view).calls =
      h.coordinator.calls ++ Coordinator.serviceCalls h.coordinator.serviceUp false := by
    rcases Coordinator.shutdown_cases h.engine.view h.coordinator with ⟨ht, -⟩ | ⟨-, d, ⟨ht, -⟩ | ⟨-, rfl⟩, hs⟩
    · exact absurd ht hended
    · exact absurd ht hready
    · rw [hs]
  simp only [Host.withCoordinator, hcalls, List.drop_left]
  cases h.coordinator.serviceUp <;> rfl

/-- Whenever it comes and whatever is done meanwhile, the end of a host is complete. -/
theorem Recorded.over_teardown (hr : h.Recorded trade factory) (ha : trade.Asks calledFor) {handles : H → List Nat}
    (hl : Releases trade factory handles) (hup : h.coordinator.task ≠ .ended) (pauses : Pauses O S) :
    (h.teardown api trade factory pauses).Over trade factory handles := by
  let h₁ := h.acts api trade factory pauses.first
  let h₂ := h₁.withCoordinator (·.shutdown h₁.engine.view)
  let h₃ := h₂.acts api trade factory pauses.second
  let h₄ := h₃.withIngestion (·.shutdown (portOf h₃.feedPort) h₃.engine.view)
  let h₅ := h₄.acts api trade factory pauses.third
  have hr₁ : h₁.Recorded trade factory := hr.acts ha _
  have hr₄ : h₄.Recorded trade factory := (hr₁.endCoordinator.acts ha _).withIngestion _
  have hr₅ : h₅.Recorded trade factory := hr₄.acts ha _
  have hr₆ : (h.teardown api trade factory pauses).Recorded trade factory :=
    hr₅.withEngine ha (m := .shutdown) rfl
  -- Nothing moves the coordinator or the ingestion once it has ended.
  have hended : h₂.coordinator.task = .ended := Coordinator.task_shutdown _ _
  have hsame₃ : h₃.coordinator = h₂.coordinator := coordinator_acts hended _
  have hended₄ : h₄.coordinator.task = .ended := (congrArg Coordinator.task hsame₃).trans hended
  have hsame₅ : h₅.coordinator = h₄.coordinator := coordinator_acts hended₄ _
  have hcoordinator : (h.teardown api trade factory pauses).coordinator = h₂.coordinator := hsame₅.trans hsame₃
  have hdown : h₂.coordinator.serviceUp = false :=
    Coordinator.serviceUp_shutdown _ fun ht => hup ((ended_acts _).1 ht)
  have hclosed : h₅.ingestion.Closed := closed_acts (Ingestion.closed_shutdown _ _) _
  obtain ⟨fresh, hfresh, hcalls⟩ := calls_endEngine (h := h₅) ha hl
  obtain ⟨done, hdone⟩ := hr₅.passes
  have hrecord : (h.teardown api trade factory pauses).engine.record =
      (h₅.recordDue trade factory).pass trade factory none := record_endEngine
  have hjournal : (h.teardown api trade factory pauses).calls = h₅.calls ++ fresh.map .factory ++
      (handles (h₅.recordDue trade factory).held).map fun handle => .factory (.destroy handle) := hcalls
  refine ⟨?_, ?_, hclosed.state, _, h₅.recordDue trade factory, ?_, hrecord, hjournal⟩
  · have halive := hl.alive (done ++ h₅.duePass)
    rw [List.foldl_append, ← hdone] at halive
    exact (congrArg (·.ledger.alive) hrecord).trans halive
  · have hbalanced := hr₆.balanced
    rw [Coordinator.Balanced, ← hr₆.served, hcoordinator, hdown] at hbalanced
    exact hbalanced
  · rw [factoryCalls_append, factoryCalls_factory, hr₅.made]
    exact hfresh.symm

/-- The calls of the end of a host at rest, if only its own tasks are let run meanwhile. -/
theorem Calm.calls_teardown (hc : h.Calm) (hr : h.Recorded trade factory) (ha : trade.Asks calledFor)
    {handles : H → List Nat} (hl : Releases trade factory handles) (hup : h.coordinator.task ≠ .ended)
    {pauses : Pauses O S} (hfirst : ∀ a ∈ pauses.first, a.isTask = true)
    (hsecond : ∀ a ∈ pauses.second, a.isTask = true) (hthird : ∀ a ∈ pauses.third, a.isTask = true) :
    (h.teardown api trade factory pauses).calls =
      h.calls ++ (if h.coordinator.serviceUp then [.hook .stopService] else []) ++
        (handles h.engine.held).map fun handle => .factory (.destroy handle) := by
  let h₁ := h.acts api trade factory pauses.first
  let h₂ := h₁.withCoordinator (·.shutdown h₁.engine.view)
  let h₃ := h₂.acts api trade factory pauses.second
  let h₄ := h₃.withIngestion (·.shutdown (portOf h₃.feedPort) h₃.engine.view)
  let h₅ := h₄.acts api trade factory pauses.third
  have hs₁ : h.Still h₁ := hc.acts hr ha hfirst
  have hr₂ : h₂.Recorded trade factory := (hr.acts ha _).endCoordinator
  have hs₁ended : h₁.coordinator.task ≠ .ended := fun ht => hup ((ended_acts _).1 ht)
  have hdue : h₁.coordinator.task ≠ .ready := fun ht => by
    have := hs₁.coordinator
    rw [ht] at this
    cases this
  have hcalls₂ : h₂.calls = h.calls ++ (if h.coordinator.serviceUp then [.hook .stopService] else []) := by
    rw [← hs₁.same, ← hs₁.calls]
    exact calls_endCoordinator hs₁ended hdue
  have hc₂ : h₂.Calm := ⟨hs₁.engine, congrArg (ObserverTask.isDue h₁.engine.view) (Coordinator.task_shutdown _ _)⟩
  have hs₃ : h₂.Still h₃ := hc₂.acts hr₂ ha hsecond
  have hs₄ : h₂.Still h₄ := hs₃.trans (hs₃.toCalm.withIngestion _)
  have hs₅ : h₂.Still h₅ := hs₄.trans (hs₄.toCalm.acts ((hr₂.acts ha _).withIngestion _) ha hthird)
  have hrecord₅ : h₅.engine.record = h.engine.record := hs₅.record.trans hs₁.record
  have hdue₅ : h₅.recordDue trade factory = h₅.engine.record := hs₅.toCalm.recordDue
  obtain ⟨fresh, hfresh, hcalls⟩ := calls_endEngine (h := h₅) ha hl
  rw [hdue₅] at hfresh hcalls
  have hnone : fresh = [] := List.self_eq_append_right.1 hfresh
  have hjournal : (h.teardown api trade factory pauses).calls = h₅.calls ++ fresh.map .factory ++
      (handles h₅.engine.record.held).map fun handle => .factory (.destroy handle) := hcalls
  rw [hjournal, hnone, hs₅.calls, hcalls₂, hrecord₅, List.map_nil, List.append_nil]
  rfl

/-- The end of a host, on its own and with whatever is done meanwhile. -/
structure Ends (api : StoreApi O S) (trade : Trade S P H V) (factory : Factory P) (handles : H → List Nat)
    (h : Host S P H V) : Prop where
  /-- The end of the program is the one in which the task of the engine runs once at first. -/
  program : h.shutdown trade factory = h.teardown api trade factory ⟨[.own .engineTask], [], []⟩
  /-- The service is up if it was started once more than it was stopped. -/
  up : (hooks h.calls).count .startService = (hooks h.calls).count .stopService + h.coordinator.serviceUp.toNat
  /-- A host at rest stops its service if it is up, and then releases what it holds, in order. -/
  orderly : h.AtRest → h.coordinator.serviceUp = EngineView.isRunning h.engine.view.value ∧
    ∀ pauses : Pauses O S, (∀ a ∈ pauses.first ++ pauses.second ++ pauses.third, a.isTask = true) →
      (h.teardown api trade factory pauses).calls =
        h.calls ++ (if h.coordinator.serviceUp then [.hook .stopService] else []) ++
          (handles h.engine.held).map fun handle => .factory (.destroy handle)
  complete : ∀ pauses : Pauses O S, (h.teardown api trade factory pauses).Over trade factory handles

theorem Recorded.ends (hr : h.Recorded trade factory) (ha : trade.Asks calledFor) {handles : H → List Nat}
    (hl : Releases trade factory handles) (hup : h.coordinator.task ≠ .ended) :
    h.Ends api trade factory handles where
  program := shutdown_eq_teardown api trade factory h
  up := hr.served ▸ hr.balanced
  complete := hr.over_teardown ha hl hup
  orderly hrest := by
    refine ⟨(hr.tracks hup).of_not_isDue hrest.coordinator, fun pauses ht => ?_⟩
    have hc : h.Calm := ⟨hrest.engine, hrest.coordinator⟩
    simp only [List.mem_append, or_assoc] at ht
    exact hc.calls_teardown hr ha hl hup (fun a ha => ht a (.inl ha)) (fun a ha => ht a (.inr (.inl ha)))
      fun a ha => ht a (.inr (.inr ha))

/-- Before its end a host does not lose its coordinator. -/
theorem coordinator_acts_start (settings : HostSettings) (store : Watch S) (as : List (HostAct O S)) :
    ((start trade settings store).acts api trade factory as).coordinator.task ≠ .ended := fun ht => by
  have hstart : (start trade settings store).coordinator.task = .ended := (ended_acts as).1 ht
  cases hstart

end

end Host

/-! ## both kinds of host -/

namespace InstanceEngine

/-- What runs, in the order of the ids, each with its handle. -/
def runningHandles (held : IdMap HeldInstance) : List (String × Nat) :=
  held.entries.filterMap fun (id, entry) => entry.resource.toOption.map (id, ·)

theorem mem_runningHandles {held : IdMap HeldInstance} {id : String} {handle : Nat} :
    (id, handle) ∈ runningHandles held ↔ Holds held id handle := by
  rw [runningHandles, List.mem_filterMap]
  constructor
  · rintro ⟨⟨x, entry⟩, hmem, hx⟩
    obtain ⟨own, hown, hx⟩ := Option.map_eq_some_iff.1 hx
    cases hx
    refine ⟨entry.fingerprint, IdMap.get?_eq_some_iff.2 ?_⟩
    obtain ⟨c, resource⟩ := entry
    cases resource <;> cases hown
    exact hmem
  · rintro ⟨c, hc⟩
    exact ⟨(id, ⟨c, .ok handle⟩), IdMap.get?_eq_some_iff.1 hc, rfl⟩

theorem outdated_nil (held : IdMap HeldInstance) : outdated [] held = runningHandles held :=
  List.filterMap_congr fun _ _ => if_neg nofun

theorem releases (factory : Factory Connection) :
    Host.Releases trade factory fun held => (runningHandles held).map (·.2) where
  calls r := by
    obtain ⟨requests, hmissing, hlog⟩ := passLog_eq factory none r.stock
    have hrequests : requests = [] := List.map_eq_nil_iff.1 hmissing
    have hcalls : (r.pass trade factory none).ledger.calls =
        r.ledger.calls ++ (passLog factory none r.stock).map (·.2) := calls_pass factory none r.stock
    rw [hcalls, hlog, hrequests, Option.getD_none, outdated_nil, List.map_nil, List.append_nil, List.map_map,
      List.map_map]
    rfl
  alive done := by
    have halive := Owns.alive_foldl_none (r := .initial trade) .empty factory done
    rwa [List.foldl_append] at halive

/-- The ids that a view shows as running are those that a handle is held for, in the same order. -/
theorem map_fst_runningHandles {held : IdMap HeldInstance} {instances : IdMap InstanceStatus}
    (hv : instances = held.map HeldInstance.status) :
    (runningHandles held).map (·.1) = (instances.entries.filter (·.2.outcome.isRunning)).map (·.1) := by
  rw [hv, runningHandles, List.map_filterMap, IdMap.map, List.filter_map, List.map_map, ← List.filterMap_eq_map,
    List.filterMap_filter]
  refine List.filterMap_congr ?_
  rintro ⟨id, c, resource⟩ -
  cases resource <;> rfl

end InstanceEngine

namespace ProfileEngine

theorem releases (factory : Factory ProfileParams) : Host.Releases trade factory fun held => (handle? held).toList where
  calls r := by
    have hcalls : (r.pass trade factory none).ledger.calls = (retire r.held r.ledger).calls := rfl
    rw [hcalls, retire_eq]
    cases handle? r.held with
    | none => exact (List.append_nil _).symm
    | some handle => rfl
  alive done := by
    have hsole : Sole (done.foldl (Record.pass trade factory) (.initial trade)) :=
      Record.foldl_keeps trade factory (fun _ wanted h => h.pass factory wanted) .initial done
    exact (hsole.pass factory none).alive

/-- A handle is held exactly while the view is running. -/
theorem Sole.isSome_handle? {r : ProfileRecord} (hr : Sole r) : (handle? r.held).isSome = r.view.value.isRunning := by
  rw [ProfileView.isRunning, hr.outcome]
  cases r.held with
  | none => rfl
  | some held =>
    obtain ⟨set, resource⟩ := held
    cases resource <;> rfl

end ProfileEngine

namespace Host

/-- **A host shuts down in order and leaves nothing behind**, whatever the factory answers and whatever was done to
the host before, also by those who share its engine or its ingestion. From rest, while only its own tasks run, it
stops the service if it is up and then releases the handle of each running entry, in the order of the ids, or the one
of the selected profile if that is running; nothing else is called. From any state, and whatever is done to it
meanwhile, nothing is alive when it is over, the service was stopped as often as it was started, the feed is idle,
and the releases of the last pass are the last calls. -/
theorem host_shuts_down_in_order (settings : HostSettings) (version : Nat) :
    (∀ (factory : Factory Connection) (snapshot : List Instance)
      (as : List (HostAct InstanceStore.Operation (List Instance))),
      let h := (start InstanceEngine.trade settings ⟨snapshot, version, true⟩).acts InstanceStore.api
        InstanceEngine.trade factory as
      let running := InstanceEngine.runningHandles h.engine.held
      h.Ends InstanceStore.api InstanceEngine.trade factory (fun held =>
          (InstanceEngine.runningHandles held).map (·.2)) ∧
        (∀ id handle, (id, handle) ∈ running ↔ InstanceEngine.Holds h.engine.held id handle) ∧
        running.map (·.1) =
          (h.engine.view.value.instances.entries.filter (·.2.outcome.isRunning)).map (·.1)) ∧
    (∀ (factory : Factory ProfileParams) (snapshot : ProfileSet)
      (as : List (HostAct ProfileStore.Operation ProfileSet)),
      let h := (start ProfileEngine.trade settings ⟨snapshot, version, true⟩).acts ProfileStore.api
        ProfileEngine.trade factory as
      h.Ends ProfileStore.api ProfileEngine.trade factory (fun held => (ProfileEngine.handle? held).toList) ∧
        (ProfileEngine.handle? h.engine.held).isSome = h.engine.view.value.isRunning) := by
  refine ⟨fun factory snapshot as => ?_, fun factory snapshot as => ?_⟩
  · intro h running
    have hr : h.Recorded InstanceEngine.trade factory :=
      (recorded_start InstanceEngine.trade factory settings ⟨snapshot, version, true⟩).acts InstanceEngine.asks as
    refine ⟨hr.ends InstanceEngine.asks (InstanceEngine.releases factory) (coordinator_acts_start settings _ as),
      fun id handle => InstanceEngine.mem_runningHandles, ?_⟩
    have hview := hr.keeps (I := fun r => r.view.value.instances = r.held.map HeldInstance.status)
      (fun _ _ _ => rfl) rfl
    exact InstanceEngine.map_fst_runningHandles hview
  · intro h
    have hr : h.Recorded ProfileEngine.trade factory :=
      (recorded_start ProfileEngine.trade factory settings ⟨snapshot, version, true⟩).acts ProfileEngine.asks as
    have hsole := hr.keeps (I := ProfileEngine.Sole) (fun _ wanted h => h.pass factory wanted) .initial
    exact ⟨hr.ends ProfileEngine.asks (ProfileEngine.releases factory) (coordinator_acts_start settings _ as),
      hsole.isSome_handle?⟩

end Host

end ProxyKeeper

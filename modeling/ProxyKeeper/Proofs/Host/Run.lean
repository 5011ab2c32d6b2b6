/-
Runs of a host: operations on its store, starts and stops of its engine, and
each of its tasks let run by itself, in any order.

`Wired` is the invariant of every such run (`wired_run`). Of the engine and
the store it says that together they are a run of the engine's own world
(`Engine/Run`), so all that is known of those holds of them; of the two
observers, that they track the view; of the journal, that it holds the calls
of the coordinator, which started the service once more than it stopped it
exactly while the service is up.
-/
import ProxyKeeper.Host
import ProxyKeeper.Proofs.Engine.Wake
import ProxyKeeper.Proofs.Observers
import ProxyKeeper.Proofs.Store.Operations

namespace ProxyKeeper

open Feed

/-- What may happen to a host before its shutdown. -/
inductive HostMove (O : Type) where
  | store (op : O)
  | start
  | stop
  | engineTask
  | ingestionTask
  | coordinatorTask
  /-- The loop of the feed runs until it waits. -/
  | feedLoop (now : Nat) (peer : Url → Handshake)
  | receive (now : Nat) (frames : List Frame)
  /-- Every task runs until it waits. -/
  | settle (now : Nat) (peer : Url → Handshake)

variable {O S P H V : Type}

/-! ## an engine that is looked after -/

/-- The moves that leave an engine its task and its source. -/
def Move.isRoutine : Move S → Bool
  | .start | .stop | .publish _ | .settle => true
  | .reconcile _ | .spawn | .closeSource | .shutdown => false

namespace World

variable (trade : Trade S P H V) (factory : Factory P)

/-- The engine has a task that waits for its source or is about to. -/
structure Attended (w : World S P H V) : Prop where
  present : w.engine.task ≠ .absent
  hopeful : w.engine.task ≠ .holding
  live : w.source.live = true

theorem attended_step {w : World S P H V} (hw : w.Attended) {m : Move S} (hm : m.isRoutine = true) :
    (w.step trade factory m).Attended := by
  obtain ⟨hpresent, hhopeful, hlive⟩ := hw
  cases m with
  | start | stop =>
    exact ⟨fun h => hpresent ((Engine.task_setStarted _ _).symm.trans h),
      fun h => hhopeful ((Engine.task_setStarted _ _).symm.trans h), hlive⟩
  | publish snapshot =>
    rw [step, if_pos hlive]
    exact ⟨hpresent, hhopeful, hlive⟩
  | settle =>
    rcases Engine.settle_cases trade factory w.source w.engine with ⟨-, hs⟩ | ⟨-, hs | ⟨hl, -⟩⟩
    · have ht : (w.step trade factory .settle).engine.task =
          .waiting w.engine.started.subscribe w.source.subscribe := by
        simp only [step, hs, Engine.passAndWait, hlive, if_true]
      exact ⟨by simp [ht], by simp [ht], hlive⟩
    · exact ⟨by rwa [step, hs], by rwa [step, hs], hlive⟩
    · exact absurd (hl.symm.trans hlive) (by decide)
  | reconcile | spawn | closeSource | shutdown => cases hm

theorem attended_run {w : World S P H V} (hw : w.Attended) {moves : List (Move S)}
    (hmoves : ∀ m ∈ moves, m.isRoutine = true) : (run trade factory moves w).Attended := by
  induction moves generalizing w with
  | nil => exact hw
  | cons m rest ih =>
    exact ih (attended_step trade factory hw (hmoves m List.mem_cons_self))
      fun m hm => hmoves m (List.mem_cons_of_mem _ hm)

/-- What publications keep of the view, every move keeps. -/
theorem view_step {I : Watch V → Prop} (publish : ∀ view v, I view → I (view.publish v)) {w : World S P H V}
    (h : I w.engine.view) (m : Move S) : I (w.step trade factory m).engine.view := by
  have hr := Record.foldl_keeps trade factory (I := fun r => I r.view) (r := w.engine.record)
    (fun _ _ => publish _ _) h (w.passes m)
  rwa [← record_step] at hr

end World

/-! ## hosts -/

namespace Host

/-- The calls to the service among the calls of a host. -/
def hooks : List (HostCall P) → List HookCall
  | [] => []
  | .hook call :: rest => call :: hooks rest
  | .factory _ :: rest => hooks rest

theorem hooks_append (a b : List (HostCall P)) : hooks (a ++ b) = hooks a ++ hooks b := by
  induction a with
  | nil => rfl
  | cons call rest ih => cases call <;> simp [hooks, ih]

@[simp] theorem hooks_factory (fresh : List (FactoryCall P)) : hooks (fresh.map .factory) = [] := by
  induction fresh with
  | nil => rfl
  | cons call rest ih => exact ih

@[simp] theorem hooks_hook (fresh : List HookCall) : hooks (P := P) (fresh.map .hook) = fresh := by
  induction fresh with
  | nil => rfl
  | cons call rest ih => exact congrArg (call :: ·) ih

variable [EngineView V]

def step (api : StoreApi O S) (trade : Trade S P H V) (factory : Factory P) (h : Host S P H V) :
    HostMove O → Host S P H V
  | .store op => (h.withStore (api.run op)).1
  | .start => h.withEngine (·.start)
  | .stop => h.withEngine (·.stop)
  | .engineTask => h.withEngine (·.settle trade factory h.store)
  | .ingestionTask => h.withIngestion (·.settleTask (portOf h.feedPort) h.engine.view)
  | .coordinatorTask => h.withCoordinator (·.settle h.engine.view)
  | .feedLoop now peer => h.withIngestion fun i => i.withLoop (·.settle i.settings.backoff now peer)
  | .receive now frames => h.withIngestion (·.receive now frames)
  | .settle now peer => h.settle trade factory now peer

def run (api : StoreApi O S) (trade : Trade S P H V) (factory : Factory P) (moves : List (HostMove O))
    (h : Host S P H V) : Host S P H V :=
  moves.foldl (step api trade factory) h

/-- The engine of a host beside the snapshots that it follows. -/
def world (h : Host S P H V) : World S P H V := ⟨h.engine, h.store⟩

/-- The invariant of a host that was started with a snapshot in its store and has not been shut down. -/
structure Wired (trade : Trade S P H V) (factory : Factory P) (settings : HostSettings) (store : Watch S)
    (h : Host S P H V) : Prop where
  world : ∃ ms, (∀ m ∈ ms, Move.isRoutine m = true) ∧
    h.world = World.run trade factory ms (World.create trade store |>.step trade factory .spawn)
  live : h.engine.view.live = true
  coordinator : h.coordinator.Tracks h.engine.view
  balanced : h.coordinator.Balanced
  ingestion : h.ingestion.Tracks (portOf h.feedPort) h.engine.view
  journal : hooks h.calls = h.coordinator.calls
  feedPort : h.feedPort = settings.feedPort
  ingest : h.ingestion.settings = settings.ingest

section

variable {trade : Trade S P H V} {factory : Factory P} {settings : HostSettings} {store : Watch S}
  {h : Host S P H V}

theorem wired_start (trade : Trade S P H V) (factory : Factory P) (settings : HostSettings) (store : Watch S) :
    (start trade settings store).Wired trade factory settings store := by
  have hview : (start trade settings store).engine.view = { value := trade.initialView } := by
    rw [start]
    dsimp only
    split
    · exact congrArg Record.view (Engine.record_setStarted (Engine.create trade).spawn.1 true)
    · rfl
  exact {
    world := by
      refine ⟨if settings.autostart then [.start] else [], fun m hm => ?_, ?_⟩
      · split at hm
        · cases List.mem_singleton.mp hm
          rfl
        · cases hm
      · rw [Host.world, start]
        dsimp only
        split <;> rfl
    live := by rw [hview]
    coordinator := trivial
    balanced := rfl
    ingestion := trivial
    journal := rfl
    feedPort := rfl
    ingest := rfl }

/-- A routine move of the engine, with whatever it does to the calls to the factory. -/
theorem Wired.advance (hw : h.Wired trade factory settings store) {m : Move S} (hm : m.isRoutine = true)
    {source : Watch S} {engine : Engine S P H V} {calls : List (HostCall P)}
    (hworld : (⟨engine, source⟩ : World S P H V) = h.world.step trade factory m)
    (hcalls : hooks calls = hooks h.calls) :
    { h with store := source, engine, calls }.Wired trade factory settings store := by
  have hengine : engine = (h.world.step trade factory m).engine := congrArg World.engine hworld
  obtain ⟨ms, hms, hrun⟩ := hw.world
  exact {
    world := by
      refine ⟨ms ++ [m], fun x hx => ?_, ?_⟩
      · rcases List.mem_append.mp hx with hx | hx
        · exact hms x hx
        · cases List.mem_singleton.mp hx
          exact hm
      · rw [World.run_append, ← hrun]
        exact hworld
    live := by
      rw [hengine]
      exact World.view_step trade factory (I := fun view => view.live = true) (fun _ _ hl => hl) (w := h.world)
        hw.live m
    coordinator := by
      rw [hengine]
      exact World.view_step trade factory (I := fun view => h.coordinator.Tracks view)
        (fun _ v ht => ht.publish v) (w := h.world) hw.coordinator m
    balanced := hw.balanced
    ingestion := by
      rw [hengine]
      exact World.view_step trade factory (I := fun view => h.ingestion.Tracks (portOf h.feedPort) view)
        (fun _ v ht => ht.publish v) (w := h.world) hw.ingestion m
    journal := hcalls.trans hw.journal
    feedPort := hw.feedPort
    ingest := hw.ingest }

theorem Wired.attended (hw : h.Wired trade factory settings store) (hlive : store.live = true) :
    h.world.Attended := by
  obtain ⟨ms, hms, hrun⟩ := hw.world
  rw [hrun]
  refine World.attended_run trade factory ⟨?_, ?_, hlive⟩ hms
  · exact ne_of_beq_false rfl
  · exact ne_of_beq_false rfl

theorem Wired.withEngine (hw : h.Wired trade factory settings store) {m : Move S} (hm : m.isRoutine = true)
    {f : Engine S P H V → Engine S P H V}
    (hf : (⟨f h.engine, h.store⟩ : World S P H V) = h.world.step trade factory m) :
    (h.withEngine f).Wired trade factory settings store := by
  refine hw.advance hm hf ?_
  rw [hooks_append, hooks_factory, List.append_nil]

theorem Wired.withIngestion (hw : h.Wired trade factory settings store) {f : Ingestion → Ingestion}
    (htracks : (f h.ingestion).Tracks (portOf h.feedPort) h.engine.view)
    (hsettings : (f h.ingestion).settings = h.ingestion.settings) :
    (h.withIngestion f).Wired trade factory settings store where
  world := hw.world
  live := hw.live
  coordinator := hw.coordinator
  balanced := hw.balanced
  ingestion := htracks
  journal := hw.journal
  feedPort := hw.feedPort
  ingest := hsettings.trans hw.ingest

theorem Wired.coordinatorTask (hw : h.Wired trade factory settings store) :
    (h.withCoordinator (·.settle h.engine.view)).Wired trade factory settings store where
  world := hw.world
  live := hw.live
  coordinator := (Coordinator.tracks_settle hw.live hw.coordinator).1
  balanced := Coordinator.balanced_settle hw.live hw.balanced
  ingestion := hw.ingestion
  journal := by
    obtain ⟨fresh, hfresh⟩ := Coordinator.calls_settle hw.live h.coordinator
    simp only [Host.withCoordinator]
    rw [hooks_append, hooks_hook, hw.journal, ← hfresh, List.drop_left]
  feedPort := hw.feedPort
  ingest := hw.ingest

theorem Wired.ingestionTask (hw : h.Wired trade factory settings store) :
    (h.withIngestion (·.settleTask (portOf h.feedPort) h.engine.view)).Wired trade factory settings store :=
  hw.withIngestion (Ingestion.tracks_settleTask hw.live hw.ingestion).1 (Ingestion.settings_settleTask _ _ _)

theorem Wired.withLoop (hw : h.Wired trade factory settings store) {f : Loop → Sink → Loop × Sink}
    (hf : ∀ l s, (f l s).1.url = l.url) :
    (h.withIngestion (·.withLoop f)).Wired trade factory settings store :=
  hw.withIngestion (Ingestion.tracks_withLoop hf hw.ingestion) (Ingestion.withLoop_frame hf _).2.2

theorem Wired.engineTask (hw : h.Wired trade factory settings store) :
    (h.withEngine (·.settle trade factory h.store)).Wired trade factory settings store :=
  hw.withEngine (m := .settle) rfl rfl

/-- Letting all tasks run is letting each run, one after the other. -/
theorem settle_eq_run (api : StoreApi O S) (now : Nat) (peer : Url → Handshake) (h : Host S P H V) :
    h.settle trade factory now peer =
      run api trade factory [.engineTask, .ingestionTask, .feedLoop now peer, .coordinatorTask] h := by
  simp only [Host.settle, run, List.foldl, step, Host.withIngestion, Ingestion.settle,
    Ingestion.settings_settleTask]

theorem Wired.settle (api : StoreApi O S) (hw : h.Wired trade factory settings store) (now : Nat)
    (peer : Url → Handshake) : (h.settle trade factory now peer).Wired trade factory settings store := by
  rw [settle_eq_run api]
  have engine : (h.step api trade factory .engineTask).Wired trade factory settings store := hw.engineTask
  have ingestion : ((h.step api trade factory .engineTask).step api trade factory .ingestionTask).Wired
      trade factory settings store := engine.ingestionTask
  have feed : (((h.step api trade factory .engineTask).step api trade factory .ingestionTask).step api trade
      factory (.feedLoop now peer)).Wired trade factory settings store :=
    ingestion.withLoop (Loop.url_settle _ now peer)
  exact feed.coordinatorTask

theorem wired_step (api : StoreApi O S) (hw : h.Wired trade factory settings store) (hlive : store.live = true)
    (m : HostMove O) : (h.step api trade factory m).Wired trade factory settings store := by
  cases m with
  | store op =>
    have hl : h.store.live = true := (hw.attended hlive).live
    rcases api.edited op h.store with ⟨v, _, hr⟩ | ⟨f, hr⟩
    · simp only [step, withStore, hr]
      exact hw.advance (m := .publish v) rfl (by rw [World.step, Host.world, if_pos hl]) rfl
    · simp only [step, withStore, hr]
      exact hw
  | start => exact hw.withEngine (m := .start) rfl rfl
  | stop => exact hw.withEngine (m := .stop) rfl rfl
  | engineTask => exact hw.engineTask
  | ingestionTask => exact hw.ingestionTask
  | coordinatorTask => exact hw.coordinatorTask
  | feedLoop now peer => exact hw.withLoop (Loop.url_settle _ now peer)
  | receive now frames => exact hw.withLoop (Loop.url_frames _ now frames)
  | settle now peer => exact hw.settle api now peer

/-- **Every run of a host keeps it wired.** -/
theorem wired_run (api : StoreApi O S) (trade : Trade S P H V) (factory : Factory P) (settings : HostSettings)
    (store : Watch S) (hlive : store.live = true) (moves : List (HostMove O)) :
    (run api trade factory moves (start trade settings store)).Wired trade factory settings store :=
  List.foldlRecOn _ _ (wired_start trade factory settings store) fun _ hw m _ => wired_step api hw hlive m

end

end Host

end ProxyKeeper

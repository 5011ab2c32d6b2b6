/-
From the store to the service and the feed. Whenever no task of a host has
anything left to do (`AtRest`), what the host shows to the outside is what
its store and its engine's flag say (`InStep`): the view is that of a pass
over the latest snapshot, the service is up while the view is running, and
the feed is followed at the port of the view.

`host_in_step_at_rest` is this for both kinds of host. That every task comes
to rest is part of it: letting them run once is enough.
-/
import ProxyKeeper.Proofs.Engine.InstancePass
import ProxyKeeper.Proofs.Host.Run

namespace ProxyKeeper

/-! ## what a view shows -/

/-- A view of the instances that are wanted: each with its connection, and no other. -/
def InstanceView.Shows (wanted : Option (List Instance)) (v : InstanceView) : Prop :=
  (∀ id, (v.instances.get? id).map (·.fingerprint) = wanted.bind (Plan.connectionFor · id)) ∧
    (wanted = none → v.instances = ∅)

/-- A view of the profile that is selected in the set that is wanted, with what the factory made of it;
without a selection there is no outcome. -/
def ProfileView.Shows (factory : Factory ProfileParams) (wanted : Option ProfileSet) (v : ProfileView) : Prop :=
  ∃ ledger : Ledger ProfileParams,
    v.configUsed = wanted.filter (·.params?.isSome) ∧
      v.outcome = wanted.bind fun set => set.params?.map fun params =>
        HeldProfile.status ⟨set, (ledger.create factory params).2⟩

theorem InstanceEngine.shows_pass (factory : Factory Connection)
    (r : Record Connection (IdMap HeldInstance) InstanceView) (wanted : Option (List Instance)) :
    (r.pass InstanceEngine.trade factory wanted).view.value.Shows wanted := by
  have hv : ∀ id, (r.pass trade factory wanted).view.value.instances.get? id =
      ((pass factory wanted r.stock).1.get? id).map HeldInstance.status := fun id => IdMap.get?_map _ _ _
  refine ⟨fun id => ?_, fun hw => IdMap.eq_empty_of_get? fun id => ?_⟩
  · rw [hv, Option.map_map]
    refine (fingerprint_pass factory wanted r.stock id).trans ?_
    cases wanted <;> rfl
  · rw [hv, hw, pass_none_held]
    rfl

theorem ProfileEngine.shows_pass (factory : Factory ProfileParams)
    (r : Record ProfileParams (Option HeldProfile) ProfileView) (wanted : Option ProfileSet) :
    (r.pass ProfileEngine.trade factory wanted).view.value.Shows factory wanted := by
  have hv : (r.pass trade factory wanted).view.value =
      trade.view (r.generation + 1) (pass factory wanted r.stock).1 := rfl
  rw [hv]
  refine ⟨retire r.held r.ledger, ?_⟩
  cases wanted with
  | none => exact ⟨rfl, rfl⟩
  | some set =>
    simp only [pass, Record.stock]
    cases hp : set.params? <;> simp [trade, Option.filter, hp]

namespace Host

open Feed

variable {O S P H V : Type} [EngineView V] {trade : Trade S P H V} {factory : Factory P}
  {settings : HostSettings} {store : Watch S} {h : Host S P H V}

/-! ## rest -/

/-- No task has anything to do. -/
structure AtRest (h : Host S P H V) : Prop where
  engine : h.engine.isDue h.store = false
  ingestion : h.ingestion.task.isDue h.engine.view = false
  coordinator : h.coordinator.task.isDue h.engine.view = false

theorem Wired.atRest_settle (hw : h.Wired trade factory settings store) (now : Nat) (peer : Url → Handshake) :
    (h.settle trade factory now peer).AtRest where
  engine := World.isDue_of_settled (World.settled_settle trade factory h.world)
  ingestion := by
    have ht := Ingestion.tracks_settleTask hw.engineTask.live hw.engineTask.ingestion
    exact (congrArg _ (Ingestion.withLoop_frame (Loop.url_settle _ now peer) _).2.1).trans ht.2
  coordinator := (Coordinator.tracks_settle hw.engineTask.live hw.engineTask.coordinator).2

/-! ## in step -/

/-- What a host shows is what its store and the flag of its engine say. -/
structure InStep (trade : Trade S P H V) (factory : Factory P) (settings : HostSettings)
    (shows : Option S → V → Prop) (port : V → Option UInt16) (h : Host S P H V) : Prop where
  /-- The last pass was one over the snapshot of the store, or over nothing while the engine is stopped. -/
  pass : ∃ done : List (Option S), h.engine.record =
    (done.foldl (Record.pass trade factory) (.initial trade)).pass trade factory (h.engine.wanted h.store.value)
  view : shows (h.engine.wanted h.store.value) h.engine.view.value
  /-- The service was started once more than it was stopped while the view is running, else as often. -/
  service : (hooks h.calls).count .startService =
    (hooks h.calls).count .stopService + (EngineView.isRunning h.engine.view.value).toNat
  /-- The port that the ingestion is asked to follow. -/
  port : portOf h.feedPort h.engine.view.value =
    if EngineView.isRunning h.engine.view.value then port h.engine.view.value else none
  feed : h.ingestion.address =
    Ingestion.addressOf settings.ingest.endpoint (portOf h.feedPort h.engine.view.value)

/-- An engine with nothing to do has run its last pass over the latest snapshot and flag. -/
theorem Wired.last_pass (hw : h.Wired trade factory settings store) (hlive : store.live = true)
    (hd : h.engine.isDue h.store = false) :
    ∃ done : List (Option S), h.engine.record =
      (done.foldl (Record.pass trade factory) (.initial trade)).pass trade factory
        (h.engine.wanted h.store.value) := by
  have ha := hw.attended hlive
  obtain ⟨ms, hms, hrun⟩ := hw.world
  have hcurrent : h.world.Current
      ([] ++ World.passesOf trade factory ms
        (World.step trade factory (.create trade store) .spawn)).getLast? := by
    rw [hrun]
    exact World.current_run trade factory (fun started seen ht => by cases ht)
      fun snapshot hm => by cases hms _ hm
  have hlast := World.last_pass_of_settle hcurrent ha.present ha.hopeful
  rw [World.passes, if_neg (by rw [Host.world, hd]; decide), List.append_nil, List.nil_append] at hlast
  obtain ⟨done, -, hrecord⟩ := World.record_run_of_last trade factory hlast
  rw [← hrun] at hrecord
  exact ⟨done, hrecord⟩

theorem Wired.inStep (hw : h.Wired trade factory settings store) (hlive : store.live = true) (hrest : h.AtRest)
    {shows : Option S → V → Prop}
    (hshows : ∀ (r : Record P H V) wanted, shows wanted (r.pass trade factory wanted).view.value)
    {port : V → Option UInt16}
    (hport : ∀ wanted v, shows wanted v →
      portOf settings.feedPort v = if EngineView.isRunning v then port v else none) :
    h.InStep trade factory settings shows port := by
  obtain ⟨done, hpass⟩ := hw.last_pass hlive hrest.engine
  have hview : shows (h.engine.wanted h.store.value) h.engine.view.value := by
    have := hshows (done.foldl (Record.pass trade factory) (.initial trade)) (h.engine.wanted h.store.value)
    rwa [← hpass] at this
  have hup : h.coordinator.serviceUp = EngineView.isRunning h.engine.view.value :=
    hw.coordinator.of_not_isDue hrest.coordinator
  refine ⟨⟨done, hpass⟩, hview, ?_, ?_, ?_⟩
  · rw [hw.journal, ← hup]
    exact hw.balanced
  · rw [hw.feedPort, hport _ _ hview]
  · rw [← hw.ingest]
    exact hw.ingestion.of_not_isDue hrest.ingestion

/-! ## both kinds of host -/

theorem portOf_instances (feedPort : Option UInt16) (v : InstanceView) :
    portOf feedPort v = if EngineView.isRunning v then feedPort else none := rfl

theorem portOf_profiles {factory : Factory ProfileParams} {wanted : Option ProfileSet} {v : ProfileView}
    (hv : v.Shows factory wanted) (feedPort : Option UInt16) :
    portOf feedPort v = if EngineView.isRunning v then v.configUsed.map (·.apiServerPort) else none := by
  obtain ⟨ledger, hconfig, houtcome⟩ := hv
  rw [portOf]
  split
  · rename_i hrunning
    have hrunning : v.outcome.any Status.isRunning = true := hrunning
    have hactive : EngineView.activeEndpoint v = v.configUsed.map (·.apiServerPort) := if_pos hrunning
    rw [hactive, hconfig]
    rw [houtcome] at hrunning
    -- A view that is running has an outcome, so a selection was found.
    cases wanted with
    | none => cases hrunning
    | some set =>
      cases hp : set.params? with
      | none => simp [hp] at hrunning
      | some params => simp [Option.filter, hp]
  · rfl

/-- **A host at rest is in step with its store**, whatever the factory answers and in whatever order
operations, starts, stops and the steps of its tasks are made; and letting its tasks run brings it to
rest. The port that is followed while the view is running is the configured one for a host of
instances, and the one that the view was built from for a host of profiles. -/
theorem host_in_step_at_rest (settings : HostSettings) (version : Nat) :
    (∀ (factory : Factory Connection) (snapshot : List Instance)
      (moves : List (HostMove InstanceStore.Operation)),
      let h := run InstanceStore.api InstanceEngine.trade factory moves
        (start InstanceEngine.trade settings ⟨snapshot, version, true⟩)
      (∀ now peer, (h.settle InstanceEngine.trade factory now peer).AtRest) ∧
        (h.AtRest → h.InStep InstanceEngine.trade factory settings InstanceView.Shows
          fun _ => settings.feedPort)) ∧
    (∀ (factory : Factory ProfileParams) (snapshot : ProfileSet)
      (moves : List (HostMove ProfileStore.Operation)),
      let h := run ProfileStore.api ProfileEngine.trade factory moves
        (start ProfileEngine.trade settings ⟨snapshot, version, true⟩)
      (∀ now peer, (h.settle ProfileEngine.trade factory now peer).AtRest) ∧
        (h.AtRest → h.InStep ProfileEngine.trade factory settings (ProfileView.Shows factory)
          fun v => v.configUsed.map (·.apiServerPort))) := by
  refine ⟨fun factory snapshot moves => ?_, fun factory snapshot moves => ?_⟩
  · have hw := wired_run InstanceStore.api InstanceEngine.trade factory settings ⟨snapshot, version, true⟩ rfl
      moves
    exact ⟨hw.atRest_settle, fun hrest => hw.inStep rfl hrest (InstanceEngine.shows_pass factory)
      fun _ v _ => portOf_instances settings.feedPort v⟩
  · have hw := wired_run ProfileStore.api ProfileEngine.trade factory settings ⟨snapshot, version, true⟩ rfl
      moves
    exact ⟨hw.atRest_settle, fun hrest => hw.inStep rfl hrest (ProfileEngine.shows_pass factory)
      fun _ v hv => portOf_profiles hv settings.feedPort⟩

end Host

end ProxyKeeper

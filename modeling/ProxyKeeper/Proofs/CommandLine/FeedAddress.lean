/-
The feed of a configuration that passes its check.

Of the feed the check reads the delays and nothing else: the endpoint and the port may be anything
(`Config.validate_feed`). Only the port of a profile's engine is one that the check has seen, since it belongs to the
set. A run follows that port, or the one of the feed while instances run (`follows_of_setUp`); so what the check leaves
open is whether the endpoint names a feed scheme and a host, and whether the port of the feed is 0.
-/
import ProxyKeeper.Proofs.CommandLine.SetUp
import ProxyKeeper.Proofs.Feed.Endpoint
import ProxyKeeper.Proofs.Host.Pipeline

namespace ProxyKeeper

open Feed

/-! ## what is checked -/

namespace Config

variable {env : Environment} {c : Config}

/-- The port at which a run follows the feed while its engine is running. -/
def followedPort (c : Config) : Option UInt16 :=
  match c.mode with
  | .instances => c.feed.port
  | .profile => some c.ports.apiServer

theorem feed_hostSettings {settings : HostSettings} (h : c.hostSettings = .ok settings) :
    settings.ingest.endpoint = c.feed.endpoint ∧ settings.feedPort = c.feed.port := by
  simp only [hostSettings] at h
  split at h
  · cases h
  · cases h
    exact ⟨rfl, rfl⟩

/-- The check looks neither at the endpoint of the feed nor at its port. -/
theorem validate_feed (env : Environment) (c : Config) (endpoint : Endpoint) (port : Option UInt16) :
    validate env { c with feed := { c.feed with endpoint, port } } = validate env c := by
  rw [validate, validate]
  simp only [hostSettings]
  split <;> rfl

/-- The port of a profile's engine is never 0. -/
theorem apiServer_ne_zero (h : validate env c = .ok ()) (hmode : c.mode = .profile) : c.ports.apiServer ≠ 0 := by
  rw [validate, hmode] at h
  obtain ⟨settings, -, h⟩ := bind_eq_ok.1 h
  obtain ⟨set, hset, -⟩ := bind_eq_ok.1 h
  have hvalid := valid_profileSet hset
  obtain ⟨⟨⟩, -, hset⟩ := bind_eq_ok.1 hset
  cases hset
  exact hvalid.ports.nonzero.2.2

end Config

/-! ## what is followed -/

namespace Host

variable {O S P H V : Type} [EngineView V] {api : StoreApi O S} {trade : Trade S P H V} {factory : Factory P}

/-- While the engine is running, the feed is at the address of a port, or nowhere if the port has none. -/
def Follows (endpoint : Endpoint) (port : Option UInt16) (h : Host S P H V) : Prop :=
  EngineView.isRunning h.engine.view.value = true → h.ingestion.address = Ingestion.addressOf endpoint port

theorem store_step {m : HostMove O} (hm : ∀ op, m ≠ .store op) (h : Host S P H V) :
    (h.step api trade factory m).store = h.store := by
  cases m with
  | store op => exact absurd rfl (hm op)
  | start | stop | engineTask | ingestionTask | coordinatorTask | feedLoop | receive | settle => rfl

theorem store_run {moves : List (HostMove O)} (hmoves : ∀ op, .store op ∉ moves) (h : Host S P H V) :
    (run api trade factory moves h).store = h.store := by
  induction moves generalizing h with
  | nil => rfl
  | cons m rest ih =>
    have hm : ∀ op, m ≠ .store op := fun op he => hmoves op (he ▸ List.mem_cons_self)
    refine (ih (fun op hop => hmoves op (List.mem_cons_of_mem m hop)) _).trans ?_
    exact store_step hm h

/-- A running view of a host of profiles was built from the snapshot of its store. -/
theorem configUsed_of_running {factory : Factory ProfileParams} {h : CommandLine.ProfileHost}
    (hv : h.engine.view.value.Shows factory (h.engine.wanted h.store.value))
    (hrunning : EngineView.isRunning h.engine.view.value = true) :
    h.engine.view.value.configUsed = some h.store.value := by
  obtain ⟨ledger, hconfig, houtcome⟩ := hv
  have hrunning : h.engine.view.value.outcome.any Status.isRunning = true := hrunning
  rw [houtcome] at hrunning
  rw [hconfig]
  rw [Engine.wanted] at hrunning ⊢
  split at hrunning
  · rename_i hstarted
    rw [if_pos hstarted]
    cases hp : h.store.value.params? with
    | none => simp [hp] at hrunning
    | some params => simp [Option.filter, hp]
  · cases hrunning

theorem follows_instances {factory : Factory Connection} {settings : HostSettings} {store : Watch (List Instance)}
    {h : CommandLine.InstanceHost} (hw : h.Wired InstanceEngine.trade factory settings store) (hlive : store.live = true)
    (hrest : h.AtRest) : h.Follows settings.ingest.endpoint settings.feedPort := by
  intro hrunning
  have hstep := hw.inStep hlive hrest (InstanceEngine.shows_pass factory)
    fun _ v _ => portOf_instances settings.feedPort v
  rw [hstep.feed, hstep.port, if_pos hrunning]

theorem follows_profiles {factory : Factory ProfileParams} {settings : HostSettings} {store : Watch ProfileSet}
    {h : CommandLine.ProfileHost} (hw : h.Wired ProfileEngine.trade factory settings store) (hlive : store.live = true)
    (hrest : h.AtRest) : h.Follows settings.ingest.endpoint (some h.store.value.apiServerPort) := by
  intro hrunning
  have hstep := hw.inStep hlive hrest (ProfileEngine.shows_pass factory)
    fun _ v hv => portOf_profiles hv settings.feedPort
  rw [hstep.feed, hstep.port, if_pos hrunning, configUsed_of_running hstep.view hrunning, Option.map_some]

end Host

/-! ## runs -/

namespace CommandLine

variable {m : Memory} {env : Environment} {path : String} {c : Config}

/-- Whenever the tasks of a host have been let run, its feed is where it should be, whatever the factory answers and
whatever has happened, but for operations on the store, of which there are none in a run. -/
def ModeHost.Follows (endpoint : Endpoint) (port : Option UInt16) : ModeHost → Prop
  | .instances h => ∀ factory moves now peer, (∀ op, .store op ∉ moves) →
    ((h.run InstanceStore.api InstanceEngine.trade factory moves).settle InstanceEngine.trade factory now peer).Follows
      endpoint port
  | .profile h => ∀ factory moves now peer, (∀ op, .store op ∉ moves) →
    ((h.run ProfileStore.api ProfileEngine.trade factory moves).settle ProfileEngine.trade factory now peer).Follows
      endpoint port

theorem live_ofRecords {records : List Instance} {s : InstanceStore} (h : InstanceStore.ofRecords records = .ok s) :
    s.records.live = true := by
  have hedited := InstanceStore.Operation.edited (.replaceAll records) .empty
  rw [InstanceStore.Operation.run] at hedited
  rw [InstanceStore.ofRecords] at h
  split at h
  · rename_i hreplaced
    cases h
    rw [hreplaced] at hedited
    obtain ⟨v, _, hv⟩ | ⟨f, hf⟩ := hedited
    · exact congrArg (fun r => r.1.live) hv
    · cases (Prod.mk.inj hf).2
  · cases h

theorem follows_of_startInstances {h : InstanceHost} (hstart : startInstances m env path c = .ok h) :
    (ModeHost.instances h).Follows c.feed.endpoint c.feed.port := by
  obtain ⟨settings, hsettings, hstart⟩ := bind_eq_ok.1 hstart
  obtain ⟨records, -, hstart⟩ := bind_eq_ok.1 hstart
  obtain ⟨store, hstore, hstart⟩ := bind_eq_ok.1 hstart
  obtain rfl := Host.eq_start_of_launch (mapError_eq_ok.1 hstart)
  intro factory moves now peer _
  have hlive := live_ofRecords (mapError_eq_ok.1 hstore)
  have hw := Host.wired_run InstanceStore.api InstanceEngine.trade factory settings store.records hlive moves
  obtain ⟨hendpoint, hport⟩ := Config.feed_hostSettings (mapError_eq_ok.1 hsettings)
  rw [← hendpoint, ← hport]
  exact Host.follows_instances (hw.settle InstanceStore.api now peer) hlive (hw.atRest_settle now peer)

theorem follows_of_startProfile {h : ProfileHost} (hstart : startProfile m path c = .ok h) :
    (ModeHost.profile h).Follows c.feed.endpoint (some c.ports.apiServer) := by
  obtain ⟨settings, hsettings, hstart⟩ := bind_eq_ok.1 hstart
  obtain ⟨set, hset, hstart⟩ := bind_eq_ok.1 hstart
  obtain ⟨store, hstore, hstart⟩ := bind_eq_ok.1 hstart
  obtain rfl := Host.eq_start_of_launch (mapError_eq_ok.1 hstart)
  intro factory moves now peer hmoves
  obtain ⟨-, rfl⟩ := ProfileStore.ofSet_eq_ok_iff.1 (mapError_eq_ok.1 hstore)
  have hw := Host.wired_run ProfileStore.api ProfileEngine.trade factory settings { value := set } rfl moves
  have hfollows := Host.follows_profiles (hw.settle ProfileStore.api now peer) rfl (hw.atRest_settle now peer)
  have hport : set.apiServerPort = c.ports.apiServer := by
    obtain ⟨⟨⟩, -, hset⟩ := bind_eq_ok.1 (mapError_eq_ok.1 hset)
    cases hset
    rfl
  have hkept : ((Host.start ProfileEngine.trade settings { value := set }).run ProfileStore.api ProfileEngine.trade
      factory moves |>.settle ProfileEngine.trade factory now peer).store = { value := set } := Host.store_run hmoves _
  rw [hkept, hport, (Config.feed_hostSettings (mapError_eq_ok.1 hsettings)).1] at hfollows
  exact hfollows

theorem follows_of_setUp {h : ModeHost} (hsetup : setUp m env path c.mode c = .ok h) :
    h.Follows c.feed.endpoint c.followedPort := by
  rw [Config.followedPort]
  cases hmode : c.mode with
  | instances =>
    rw [hmode, setUp] at hsetup
    obtain ⟨h, hstart, rfl⟩ := map_eq_ok.1 hsetup
    exact follows_of_startInstances hstart
  | profile =>
    rw [hmode, setUp] at hsetup
    obtain ⟨h, hstart, rfl⟩ := map_eq_ok.1 hsetup
    exact follows_of_startProfile hstart

/-- **What the check of a configuration leaves open about its feed.** A configuration that passes can be run where
there is room for its events, and whenever the engine of a run is running the feed is at the address of the port that
is followed. But it passes with any endpoint and any port of the feed. So there is an address exactly if the endpoint
names a feed scheme and a host and, where instances are run, the port that was given is not 0; the port of a profile's
engine never is. -/
theorem feed_of_checked_config (env : Environment) (path : String) (c : Config) (h : Config.validate env c = .ok ()) :
    (∀ m : Memory, m.Fits c.feed.history.toNat c.feed.live.toNat → ∃ host, setUp m env path c.mode c = .ok host) ∧
      (∀ m host, setUp m env path c.mode c = .ok host → host.Follows c.feed.endpoint c.followedPort) ∧
      (∀ endpoint port, Config.validate env { c with feed := { c.feed with endpoint, port } } = .ok ()) ∧
      (c.feed.endpoint.Aligned → ∀ port, c.followedPort = some port →
        ((∃ url, c.feed.endpoint.urlFor port = .ok url) ↔
          c.feed.endpoint.Names ∧ (c.mode = .instances → port ≠ 0))) := by
  refine ⟨fun m hfits => ?_, fun _ _ => follows_of_setUp,
    fun endpoint port => (Config.validate_feed env c endpoint port).trans h, fun haligned port hport => ?_⟩
  · have hchannel : c.channel m = .ok _ := Memory.allocate_eq_ok_iff.2 ⟨hfits, rfl⟩
    have hagree := agree m env path c.mode c
    rw [h, hchannel] at hagree
    generalize setUp m env path c.mode c = r at hagree
    cases hagree with
    | accepted => exact ⟨_, rfl⟩
  · rw [Endpoint.exists_urlFor_iff haligned, and_comm]
    refine and_congr_right fun _ => ⟨fun hne _ => hne, fun hne => ?_⟩
    cases hmode : c.mode with
    | instances => exact hne hmode
    | profile =>
      rw [Config.followedPort, hmode] at hport
      cases hport
      exact Config.apiServer_ne_zero h hmode

/-- A configuration with a loopback address in full and a port has a feed. -/
theorem feed_of_loopback :
    let c : Config := { feed := { endpoint := { host := "[::1]" }, port := some 3010 } }
    Config.validate [] c = .ok () ∧ c.followedPort = some 3010 ∧ c.feed.endpoint.Aligned ∧
      ∃ url, c.feed.endpoint.urlFor 3010 = .ok url := by
  intro c
  have hvalid : Config.validate [] c = .ok () := rfl
  have haligned : c.feed.endpoint.Aligned := by decide +kernel
  have hhost : Url.address c.feed.endpoint.hostText = "[::1]".toList := by decide +kernel
  have hnames : c.feed.endpoint.Names := ⟨.inl (by decide +kernel), _, by rw [hhost]; rfl⟩
  have hfeed := feed_of_checked_config [] "config.toml" c hvalid
  exact ⟨hvalid, rfl, haligned, (hfeed.2.2.2 haligned 3010 rfl).2 ⟨hnames, fun _ => by decide⟩⟩

/-- Two configurations pass and have no feed, one for its scheme and one for its port. -/
theorem checked_config_without_feed :
    let web : Config := { feed := { endpoint := { scheme := "http" }, port := some 3010 } }
    let portless : Config := { feed := { port := some 0 } }
    (Config.validate [] web = .ok () ∧ web.followedPort = some 3010 ∧
        ∀ url, web.feed.endpoint.urlFor 3010 ≠ .ok url) ∧
      Config.validate [] portless = .ok () ∧ portless.followedPort = some 0 ∧
        ∀ url, portless.feed.endpoint.urlFor 0 ≠ .ok url := by
  refine ⟨⟨rfl, rfl, fun url h => ?_⟩, rfl, rfl, fun url h => ?_⟩
  · have hcolon : ':' ∉ Endpoint.schemeText { scheme := "http" } := by decide +kernel
    have hscheme := (Endpoint.urlFor_ok h).2.1
    rw [(Endpoint.urlFor_of_not_mem h hcolon).1] at hscheme
    exact absurd hscheme (by decide +kernel)
  · exact (Endpoint.urlFor_ok h).1 rfl

end CommandLine

end ProxyKeeper

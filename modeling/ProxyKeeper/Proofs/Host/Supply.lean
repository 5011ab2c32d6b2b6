/-
What a host asks its factory for.

A factory is asked only for what a snapshot calls for (`Trade.Asks`): the
connection of an enabled record, or the parameters of the selected profile.
The snapshots come from the store alone, and what the store holds is valid at
all times. `Supplied` is the invariant that puts the two together; the journal
of the host has a part in it because it is where the calls are read.

This goes for both kinds of host, up to the end of their shutdown. A valid
connection has an address that can be read, so the one reason that is left to
a listener for refusing it is that the address is taken (`Connection.Usable`).
-/
import ProxyKeeper.Engine.Listeners
import ProxyKeeper.Proofs.Engine.Churn
import ProxyKeeper.Proofs.Engine.SingleHandle
import ProxyKeeper.Proofs.Host.Run
import ProxyKeeper.Proofs.Store.Instances
import ProxyKeeper.Proofs.Store.Profiles

namespace ProxyKeeper

variable {O S P H V : Type}

/-! ## requests -/

/-- What was asked for by some calls, whatever came of it. -/
def FactoryCall.requests (calls : List (FactoryCall P)) : List P :=
  calls.filterMap fun
    | .create params _ => some params
    | .destroy _ => none

namespace FactoryCall

@[simp] theorem requests_nil : requests ([] : List (FactoryCall P)) = [] := rfl

@[simp] theorem requests_append (a b : List (FactoryCall P)) : requests (a ++ b) = requests a ++ requests b :=
  List.filterMap_append

@[simp] theorem requests_create (params : P) (outcome : Except String Nat) :
    requests [.create params outcome] = [params] := rfl

@[simp] theorem requests_destroy (handle : Nat) : requests [(.destroy handle : FactoryCall P)] = [] := rfl

end FactoryCall

/-- A pass only asks for what the snapshot that it is over calls for. -/
def Trade.Asks (trade : Trade S P H V) (calledFor : S → P → Prop) : Prop :=
  ∀ factory wanted (r : Record P H V), ∃ fresh,
    (r.pass trade factory wanted).ledger.calls = r.ledger.calls ++ fresh ∧
      ∀ params ∈ FactoryCall.requests fresh, ∃ snapshot, wanted = some snapshot ∧ calledFor snapshot params

/-! ### instances -/

/-- A record is called for if it is enabled. -/
def InstanceEngine.CalledFor (records : List Instance) (c : Connection) : Prop :=
  ∃ i ∈ records, i.enabled = true ∧ i.connection = c

theorem InstanceEngine.asks : trade.Asks CalledFor := by
  intro factory wanted r
  obtain ⟨requests, hmissing, hlog⟩ := passLog_eq factory wanted r.stock
  refine ⟨_, calls_pass factory wanted r.stock, fun params hparams => ?_⟩
  rw [hlog, List.map_append, FactoryCall.requests_append, List.mem_append] at hparams
  obtain hparams | hparams := hparams
  · simp [FactoryCall.requests] at hparams
  · have hrequest : ∃ i ∈ requests.map (·.1), i.connection = params := by
      simpa [FactoryCall.requests] using hparams
    obtain ⟨i, hi, hc⟩ := hrequest
    rw [hmissing] at hi
    have hwanted := (mem_missing_iff.1 hi).1
    cases wanted with
    | none => simp [Plan.wanted, Plan.wantedFrom] at hwanted
    | some records =>
      obtain ⟨hmem, henabled, -⟩ := Plan.mem_wantedFrom hwanted
      exact ⟨records, rfl, i, hmem, henabled, hc⟩

/-! ### profiles -/

/-- The parameters of the selected profile are called for. -/
def ProfileEngine.CalledFor (set : ProfileSet) (params : ProfileParams) : Prop := set.params? = some params

theorem ProfileEngine.calls_retire (held : Option HeldProfile) (l : Ledger ProfileParams) :
    ∃ fresh, (retire held l).calls = l.calls ++ fresh ∧ FactoryCall.requests fresh = [] := by
  rw [retire_eq]
  cases handle? held with
  | none => exact ⟨[], by simp⟩
  | some handle => exact ⟨[.destroy handle], rfl, FactoryCall.requests_destroy handle⟩

theorem ProfileEngine.asks : trade.Asks CalledFor := by
  intro factory wanted r
  obtain ⟨released, hreleased, hnone⟩ := calls_retire r.held r.ledger
  obtain ⟨set, params, rfl, -, hrequests, hpass⟩ | ⟨-, hpass⟩ := pass_cases factory wanted r.held r.ledger
  · have hcalled : set.params? = some params := Option.toList_eq_singleton_iff.1 hrequests
    have hcalls : (r.pass trade factory (some set)).ledger.calls =
        r.ledger.calls ++ (released ++ [.create params ((retire r.held r.ledger).create factory params).2]) := by
      simp only [Record.pass, trade, hpass]
      rw [Ledger.create_eq, hreleased, List.append_assoc]
    refine ⟨_, hcalls, fun x hx => ?_⟩
    simp only [FactoryCall.requests_append, hnone, FactoryCall.requests_create, List.nil_append,
      List.mem_singleton] at hx
    exact ⟨set, rfl, hx ▸ hcalled⟩
  · refine ⟨released, ?_, fun x hx => ?_⟩
    · simp only [Record.pass, trade, hpass]
      exact hreleased
    · rw [hnone] at hx
      cases hx

/-! ## engines -/

namespace World

variable {trade : Trade S P H V} (factory : Factory P) {calledFor : S → P → Prop} {fine : P → Prop}

theorem calls_foldl (ha : trade.Asks calledFor) {passes : List (Option S)}
    (hfine : ∀ snapshot, some snapshot ∈ passes → ∀ params, calledFor snapshot params → fine params)
    (r : Record P H V) : ∃ fresh,
      (passes.foldl (Record.pass trade factory) r).ledger.calls = r.ledger.calls ++ fresh ∧
        ∀ params ∈ FactoryCall.requests fresh, fine params := by
  induction passes generalizing r with
  | nil => exact ⟨[], by simp⟩
  | cons wanted rest ih =>
    obtain ⟨first, hfirst, hasked⟩ := ha factory wanted r
    obtain ⟨later, hlater, hrest⟩ :=
      ih (fun snapshot hs => hfine snapshot (List.mem_cons_of_mem _ hs)) (r.pass trade factory wanted)
    refine ⟨first ++ later, by rw [List.foldl_cons, hlater, hfirst, List.append_assoc], fun params hparams => ?_⟩
    rw [FactoryCall.requests_append, List.mem_append] at hparams
    obtain hparams | hparams := hparams
    · obtain ⟨snapshot, rfl, hcalled⟩ := hasked params hparams
      exact hfine snapshot List.mem_cons_self params hcalled
    · exact hrest params hparams

/-- The moves that have nothing but the source to take a snapshot from. -/
theorem source_of_mem_passes {w : World S P H V} {m : Move S} (hm : ∀ snapshot, m ≠ .reconcile snapshot) {snapshot : S}
    (h : some snapshot ∈ w.passes m) : snapshot = w.source.value := by
  have hwanted : some snapshot = w.engine.wanted w.source.value := by
    cases m with
    | reconcile other => exact absurd rfl (hm other)
    | settle =>
      simp only [passes] at h
      split at h
      · exact List.mem_singleton.1 h
      · cases h
    | shutdown =>
      simp only [passes, List.mem_append, List.mem_singleton, reduceCtorEq, or_false] at h
      split at h
      · exact List.mem_singleton.1 h
      · cases h
    | start | stop | spawn | publish | closeSource => cases h
  rw [Engine.wanted] at hwanted
  split at hwanted
  · exact Option.some.inj hwanted
  · cases hwanted

theorem calls_step (ha : trade.Asks calledFor) {w : World S P H V} {m : Move S}
    (hm : ∀ snapshot, m ≠ .reconcile snapshot) (hfine : ∀ params, calledFor w.source.value params → fine params) :
    ∃ fresh, (w.step trade factory m).engine.ledger.calls = w.engine.ledger.calls ++ fresh ∧
      ∀ params ∈ FactoryCall.requests fresh, fine params := by
  have hrecord := congrArg (·.ledger.calls) (record_step trade factory w m)
  have hpasses : ∀ snapshot, some snapshot ∈ w.passes m → ∀ params, calledFor snapshot params → fine params := by
    intro snapshot hs
    rw [source_of_mem_passes hm hs]
    exact hfine
  obtain ⟨fresh, hfresh, hrequests⟩ := calls_foldl factory ha hpasses w.engine.record
  exact ⟨fresh, hrecord.trans hfresh, hrequests⟩

end World

/-! ## hosts -/

namespace Host

/-- The calls to the factory among the calls of a host. -/
def factoryCalls : List (HostCall P) → List (FactoryCall P)
  | [] => []
  | .factory call :: rest => call :: factoryCalls rest
  | .hook _ :: rest => factoryCalls rest

theorem factoryCalls_append (a b : List (HostCall P)) : factoryCalls (a ++ b) = factoryCalls a ++ factoryCalls b := by
  induction a with
  | nil => rfl
  | cons call rest ih => cases call <;> simp [factoryCalls, ih]

@[simp] theorem factoryCalls_factory (fresh : List (FactoryCall P)) : factoryCalls (fresh.map .factory) = fresh := by
  induction fresh with
  | nil => rfl
  | cons call rest ih => exact congrArg (call :: ·) ih

@[simp] theorem factoryCalls_hook (fresh : List HookCall) : factoryCalls (P := P) (fresh.map .hook) = [] := by
  induction fresh with
  | nil => rfl
  | cons call rest ih => exact ih

/-- What a host has asked its factory for. -/
def requests (h : Host S P H V) : List P := FactoryCall.requests (factoryCalls h.calls)

/-- A store and an engine that fit together: what the store holds stays good, and what is called for by a good snapshot
is fine. -/
structure Supply (api : StoreApi O S) (trade : Trade S P H V) (good : Watch S → Prop) (calledFor : S → P → Prop)
    (fine : P → Prop) : Prop where
  kept : ∀ op w, good w → good (api.run op w).1
  asks : trade.Asks calledFor
  fine : ∀ w params, good w → calledFor w.value params → fine params

/-- What the store holds is good, and what was asked for is fine. -/
structure Supplied (good : Watch S → Prop) (fine : P → Prop) (h : Host S P H V) : Prop where
  store : good h.store
  journal : factoryCalls h.calls = h.engine.ledger.calls
  asked : ∀ params ∈ h.requests, fine params

section

variable {api : StoreApi O S} {trade : Trade S P H V} {good : Watch S → Prop} {calledFor : S → P → Prop}
  {fine : P → Prop} {h : Host S P H V}

theorem supplied_start {settings : HostSettings} {store : Watch S} (hstore : good store) :
    (start trade settings store).Supplied good fine where
  store := hstore
  journal := by
    rw [start]
    dsimp only
    split
    · exact (congrArg (·.ledger.calls) (Engine.record_setStarted (Engine.create trade).spawn.1 true)).symm
    · rfl
  asked params hparams := by cases hparams

/-- A move of the engine that takes no snapshot but from the store. -/
theorem Supplied.withEngine (hs : h.Supplied good fine) (supply : Supply api trade good calledFor fine)
    (factory : Factory P) {m : Move S} (hm : ∀ snapshot, m ≠ .reconcile snapshot) {f : Engine S P H V → Engine S P H V}
    (hf : f h.engine = (h.world.step trade factory m).engine) : (h.withEngine f).Supplied good fine := by
  obtain ⟨fresh, hfresh, hrequests⟩ := World.calls_step factory supply.asks (w := h.world) hm
    fun params hcalled => supply.fine h.store params hs.store hcalled
  have hledger : (f h.engine).ledger.calls = h.engine.ledger.calls ++ fresh := by
    rw [hf]
    exact hfresh
  have hcalls : (h.withEngine f).calls = h.calls ++ fresh.map .factory := by
    simp only [Host.withEngine, hledger, List.drop_left]
  refine ⟨hs.store, ?_, fun params hparams => ?_⟩
  · rw [hcalls, factoryCalls_append, factoryCalls_factory, hs.journal]
    exact hledger.symm
  · rw [requests, hcalls, factoryCalls_append, factoryCalls_factory, FactoryCall.requests_append, List.mem_append]
      at hparams
    exact hparams.elim (hs.asked params) (hrequests params)

theorem Supplied.settleEngine (hs : h.Supplied good fine) (supply : Supply api trade good calledFor fine)
    (factory : Factory P) : (h.withEngine (·.settle trade factory h.store)).Supplied good fine :=
  hs.withEngine supply factory (m := .settle) (by simp) rfl

theorem Supplied.withCoordinator (hs : h.Supplied good fine) (f : Coordinator → Coordinator) :
    (h.withCoordinator f).Supplied good fine := by
  have hcalls : factoryCalls (h.withCoordinator f).calls = factoryCalls h.calls := by
    simp only [Host.withCoordinator, factoryCalls_append, factoryCalls_hook, List.append_nil]
  refine ⟨hs.store, hcalls.trans hs.journal, ?_⟩
  rw [requests, hcalls]
  exact hs.asked

theorem Supplied.withIngestion (hs : h.Supplied good fine) (f : Ingestion → Ingestion) :
    (h.withIngestion f).Supplied good fine := ⟨hs.store, hs.journal, hs.asked⟩

variable [EngineView V]

theorem Supplied.step (hs : h.Supplied good fine) (supply : Supply api trade good calledFor fine) (factory : Factory P)
    (m : HostMove O) : (h.step api trade factory m).Supplied good fine := by
  cases m with
  | store op => exact ⟨supply.kept op h.store hs.store, hs.journal, hs.asked⟩
  | start => exact hs.withEngine supply factory (m := .start) (by simp) rfl
  | stop => exact hs.withEngine supply factory (m := .stop) (by simp) rfl
  | engineTask => exact hs.settleEngine supply factory
  | ingestionTask | feedLoop | receive => exact hs.withIngestion _
  | coordinatorTask => exact hs.withCoordinator _
  | settle now peer => exact ((hs.settleEngine supply factory).withIngestion _).withCoordinator _

theorem Supplied.run (hs : h.Supplied good fine) (supply : Supply api trade good calledFor fine) (factory : Factory P)
    (moves : List (HostMove O)) : (h.run api trade factory moves).Supplied good fine :=
  List.foldlRecOn _ _ hs fun _ hs m _ => hs.step supply factory m

theorem Supplied.shutdown (hs : h.Supplied good fine) (supply : Supply api trade good calledFor fine)
    (factory : Factory P) : (h.shutdown trade factory).Supplied good fine := by
  refine Supplied.withEngine ?_ supply factory (m := .shutdown) (by simp) rfl
  exact ((hs.settleEngine supply factory).withCoordinator _).withIngestion _

end

end Host

/-! ## both kinds of host -/

/-- A connection that its listener can be asked for. -/
structure Connection.Usable (c : Connection) : Prop where
  valid : c.validate = .ok ()
  /-- A listener is refused for one reason only: its address can be read, and it is taken. -/
  refused : ∀ taken calls message, (Listeners.instances taken).attempt calls c = .error message →
    ∃ address, c.socketAddress = .ok address ∧ message = s!"cannot bind {address.render}: {Listeners.inUse}"

theorem Connection.validate_eq_ok_iff {c : Connection} :
    c.validate = .ok () ↔ Text.isAllBlank c.serverHost = false ∧ c.serverPort ≠ 0 ∧ c.key.reveal.isEmpty = false ∧
      ∃ address, c.socketAddress = .ok address := by
  rw [validate, Check.seq_eq_ok_iff, Check.seq_eq_ok_iff, Check.seq_eq_ok_iff, Check.require_eq_ok_iff,
    Check.require_eq_ok_iff, Check.require_eq_ok_iff]
  cases c.socketAddress <;> simp [bind, Except.bind, pure, Except.pure]

theorem Connection.usable_of_valid {c : Connection} (h : c.validate = .ok ()) : c.Usable where
  valid := h
  refused taken calls message hrefused := by
    obtain ⟨-, -, -, address, haddress⟩ := validate_eq_ok_iff.1 h
    refine ⟨address, haddress, ?_⟩
    simp only [Listeners.instances, haddress] at hrefused
    split at hrefused
    · cases hrefused
    · exact (Except.error.inj hrefused).symm

/-- Parameters of a valid set, with the addresses of a valid profile. -/
structure ProfileParams.Usable (params : ProfileParams) : Prop where
  nonzero : params.httpProxyPort ≠ 0 ∧ params.socks5ProxyPort ≠ 0 ∧ params.apiServerPort ≠ 0
  distinct : params.httpProxyPort ≠ params.socks5ProxyPort ∧ params.httpProxyPort ≠ params.apiServerPort ∧
    params.socks5ProxyPort ≠ params.apiServerPort
  addresses : ∃ profile : Profile, profile.validate = .ok () ∧ params.mainServerUrl = profile.mainServerUrl ∧
    params.aiServerUrl = profile.aiServerUrl ∧ params.tailscaleServerUrl = profile.tailscaleServerUrl

theorem ProfileParams.usable_of_valid {set : ProfileSet} (h : set.Valid) {params : ProfileParams}
    (hparams : set.params? = some params) : params.Usable := by
  obtain ⟨profile, hselected, rfl⟩ := Option.map_eq_some_iff.1 hparams
  obtain ⟨id, -, hfind⟩ := Option.bind_eq_some_iff.1 hselected
  have hprofile : profile.Valid := h.profiles profile (List.mem_of_find?_eq_some hfind)
  exact ⟨h.ports.nonzero, h.ports.distinct, profile, Profile.validate_eq_ok_iff.2 hprofile, rfl, rfl, rfl⟩

theorem Instance.validate_connection {i : Instance} (h : i.validate = .ok ()) : i.connection.validate = .ok () := by
  rw [validate, Check.seq_eq_ok_iff, Check.seq_eq_ok_iff] at h
  exact h.2.2

namespace Host

theorem supply_instances :
    Supply InstanceStore.api InstanceEngine.trade (fun w => (⟨w⟩ : InstanceStore).Sound) InstanceEngine.CalledFor
      Connection.Usable where
  kept op w h := h.step op
  asks := InstanceEngine.asks
  fine w c h hcalled := by
    obtain ⟨i, hi, -, rfl⟩ := hcalled
    exact Connection.usable_of_valid (Instance.validate_connection (h.valid i hi))

theorem supply_profiles :
    Supply ProfileStore.api ProfileEngine.trade (fun w => w.value.Valid) ProfileEngine.CalledFor
      ProfileParams.Usable where
  kept op w h := op.valid_run (s := ⟨w⟩) h
  asks := ProfileEngine.asks
  fine _ _ h hcalled := ProfileParams.usable_of_valid h hcalled

/-- **Nothing invalid is asked for**, whatever the factory answers and in whatever order operations, starts, stops and
the steps of the tasks are made, from a store that is empty or was made from records or from a set and up to the end of
the shutdown: every request of the engine is for a connection that passes its check, of which a listener can read the
address, or for ports that may be used together and addresses of a profile that passes its check. The requests are read
from the journal of the host, in which there are the calls of the engine and no others. -/
theorem requests_are_valid (settings : HostSettings) :
    (∀ (factory : Factory Connection) (s : InstanceStore) (earlier : List InstanceStore.Operation)
      (moves : List (HostMove InstanceStore.Operation)), (s = .empty ∨ ∃ records, InstanceStore.ofRecords records = .ok s) →
      let h := run InstanceStore.api InstanceEngine.trade factory moves
        (start InstanceEngine.trade settings (InstanceStore.runs earlier s).records)
      let ended := h.shutdown InstanceEngine.trade factory
      (∀ c ∈ h.requests, c.Usable) ∧ factoryCalls h.calls = h.engine.ledger.calls ∧
        (∀ c ∈ ended.requests, c.Usable) ∧ factoryCalls ended.calls = ended.engine.ledger.calls) ∧
    (∀ (factory : Factory ProfileParams) (s : ProfileStore) (earlier : List ProfileStore.Operation)
      (moves : List (HostMove ProfileStore.Operation)), (s = .empty ∨ ∃ set, ProfileStore.ofSet set = .ok s) →
      let h := run ProfileStore.api ProfileEngine.trade factory moves
        (start ProfileEngine.trade settings (ProfileStore.runs earlier s).set)
      let ended := h.shutdown ProfileEngine.trade factory
      (∀ params ∈ h.requests, params.Usable) ∧ factoryCalls h.calls = h.engine.ledger.calls ∧
        (∀ params ∈ ended.requests, params.Usable) ∧ factoryCalls ended.calls = ended.engine.ledger.calls) := by
  refine ⟨fun factory s earlier moves hs => ?_, fun factory s earlier moves hs => ?_⟩
  · have hsound : s.Sound := by
      obtain rfl | ⟨records, hrecords⟩ := hs
      · exact InstanceStore.sound_empty
      · exact InstanceStore.sound_ofRecords hrecords
    intro h ended
    have hstart : (start InstanceEngine.trade settings (InstanceStore.runs earlier s).records).Supplied
        (fun w => (⟨w⟩ : InstanceStore).Sound) Connection.Usable := supplied_start (hsound.runs earlier)
    have hh := hstart.run supply_instances factory moves
    have hended := hh.shutdown supply_instances factory
    exact ⟨hh.asked, hh.journal, hended.asked, hended.journal⟩
  · have hvalid : s.snapshot.Valid := by
      obtain rfl | ⟨set, hset⟩ := hs
      · exact ProfileStore.valid_empty
      · exact ProfileStore.valid_ofSet hset
    intro h ended
    have hstart : (start ProfileEngine.trade settings (ProfileStore.runs earlier s).set).Supplied
        (fun w => w.value.Valid) ProfileParams.Usable := supplied_start (ProfileStore.valid_runs hvalid earlier)
    have hh := hstart.run supply_profiles factory moves
    have hended := hh.shutdown supply_profiles factory
    exact ⟨hh.asked, hh.journal, hended.asked, hended.journal⟩

/-- A record is made and asked for; one that is not valid is refused by the store, and nobody asks for it. -/
theorem requests_of_one_record :
    let record (id address : String) : Instance := .create id id ⟨"relay", 443, ⟨"k"⟩, address⟩
    let factory := Listeners.instances []
    let moves : List (HostMove InstanceStore.Operation) :=
      [.store (.save (record "a" "127.0.0.1:1080")), .store (.save (record "b" "nowhere")), .engineTask]
    let h := run InstanceStore.api InstanceEngine.trade factory moves
      (start InstanceEngine.trade {} (InstanceStore.runs [] .empty).records)
    h.requests = [⟨"relay", 443, ⟨"k"⟩, "127.0.0.1:1080"⟩] ∧ ∀ c ∈ h.requests, c.Usable := by
  intro record factory moves h
  exact ⟨by decide +kernel, ((requests_are_valid {}).1 factory .empty [] moves (.inl rfl)).1⟩

end Host

end ProxyKeeper

/-
The check of a configuration against the set-up of a run.

Both read the settings, the records or the set, and the ids of the records.
The check looks at the ids once the records are made; a run leaves them to the
store, which looks at each record again. The records were made valid
(`Config.valid_instanceRecords`), and so was the set, so that nothing is left
for the store to refuse but a second record of an id, and that the check has
found as well (`Config.checks_of_valid`). What differs is the field that the
error names (`Refusal`).

The check does not look at the room that a host takes for the channel of its
events. So a configuration that passes is run if the machine has that room,
and a run of it crashes if not (`Agree`); some capacities are more than any
machine can hold.
-/
import ProxyKeeper.CommandLine.Run
import ProxyKeeper.Config.Wire
import ProxyKeeper.Proofs.Results
import ProxyKeeper.Proofs.Store.Instances
import ProxyKeeper.Proofs.Store.Profiles

namespace ProxyKeeper

open Feed

/-! ## what a configuration comes to -/

namespace Config

variable {env : Environment} {c : Config}

/-- The channel of the events of a configuration, if there is room for it. -/
def channel (m : Memory) (c : Config) : Except Crash (Replay Event) :=
  Replay.allocate m c.feed.history.toNat c.feed.live.toNat

theorem capacities_hostSettings {settings : HostSettings} (h : c.hostSettings = .ok settings) :
    settings.ingest.history = c.feed.history.toNat ∧ settings.ingest.live = c.feed.live.toNat := by
  simp only [hostSettings] at h
  split at h
  · cases h
  · cases h
    exact ⟨rfl, rfl⟩

theorem autostart_hostSettings {settings : HostSettings} (h : c.hostSettings = .ok settings) :
    settings.autostart = true := by
  simp only [hostSettings] at h
  split at h
  · cases h
  · cases h
    rfl

theorem InstanceEntry.validate_of_toInstance {e : InstanceEntry} {i : Instance} (h : e.toInstance env = .ok i) :
    i.validate = .ok () := by
  obtain ⟨key, -, h⟩ := bind_eq_ok.1 h
  obtain ⟨⟨⟩, hv, h⟩ := bind_eq_ok.1 h
  cases h
  exact mapError_eq_ok.1 hv

theorem valid_instanceRecords {records : List Instance} (h : c.instanceRecords env = .ok records) :
    ∀ r ∈ records, r.validate = .ok () :=
  forall_mem_of_mapM (fun _ _ => InstanceEntry.validate_of_toInstance) h

theorem valid_profileSet {set : ProfileSet} (h : c.profileSet = .ok set) : set.Valid := by
  obtain ⟨⟨⟩, hv, h⟩ := bind_eq_ok.1 h
  cases h
  exact ProfileSet.validate_eq_ok_iff.1 (mapError_eq_ok.1 hv)

/-- What is said of an id that stands twice. -/
def duplicate (id : String) : String := s!"duplicate id '{id}'"

/-- Valid records pass both checks of their ids, or both stop at the same id. -/
theorem checks_of_valid {records : List Instance} (h : ∀ r ∈ records, r.validate = .ok ()) :
    (checkDistinct records = .ok () ∧ InstanceStore.checkAll records = .ok ()) ∨
      ∃ id, checkDistinct records = .error (.validation "instances" (duplicate id)) ∧
        InstanceStore.checkAll records = .error (.validation "id" (duplicate id)) := by
  induction records with
  | nil => exact .inl ⟨rfl, rfl⟩
  | cons r rest ih =>
    obtain ⟨hr, hrest⟩ := List.forall_mem_cons.1 h
    rw [checkDistinct, InstanceStore.checkAll, hr]
    cases hany : rest.any (·.id == r.id) with
    | true => exact .inr ⟨r.id, rfl, rfl⟩
    | false => exact ih hrest

end Config

/-! ## room -/

namespace Memory

variable {m : Memory}

/-- Whether so many bytes are to be had. -/
def Has (m : Memory) (bytes : Nat) : Prop := bytes ≤ limit ∧ (bytes = 0 ∨ m.grants bytes = true)

theorem reserve_eq_ok_iff {bytes : Nat} : m.reserve bytes = .ok () ↔ m.Has bytes := by
  rw [reserve, Has]
  split
  · rename_i hlimit
    exact iff_of_false (fun h => by cases h) fun h => absurd h.1 (Nat.not_le.2 hlimit)
  · rename_i hlimit
    split
    · rename_i hgrant
      exact iff_of_true rfl ⟨Nat.le_of_not_lt hlimit, hgrant⟩
    · rename_i hgrant
      exact iff_of_false (fun h => by cases h) fun h => hgrant h.2

/-- Whether a channel of these capacities can be made. -/
structure Fits (m : Memory) (history live : Nat) : Prop where
  slots : live ≤ limit
  ring : m.Has (ringSize live * m.slotBytes)
  history : m.Has (history * referenceBytes)

theorem allocate_eq_ok_iff {α : Type} {history live : Nat} {c : Replay α} :
    Replay.allocate m history live = .ok c ↔ m.Fits history live ∧ c = .create history live := by
  rw [Replay.allocate]
  split
  · rename_i hlimit
    exact iff_of_false (fun h => by cases h) fun h => absurd h.1.slots (Nat.not_le.2 hlimit)
  · rename_i hlimit
    constructor
    · intro h
      obtain ⟨⟨⟩, hring, h⟩ := bind_eq_ok.1 h
      obtain ⟨⟨⟩, hhistory, h⟩ := bind_eq_ok.1 h
      cases h
      exact ⟨⟨Nat.le_of_not_lt hlimit, reserve_eq_ok_iff.1 hring, reserve_eq_ok_iff.1 hhistory⟩, rfl⟩
    · rintro ⟨h, rfl⟩
      exact bind_eq_ok.2 ⟨(), reserve_eq_ok_iff.2 h.ring, bind_eq_ok.2 ⟨(), reserve_eq_ok_iff.2 h.history, rfl⟩⟩

end Memory

/-! ## hosts -/

namespace Host

variable {S P H V : Type}

/-- A host is started if there is room for the channel of its events, and the program crashes if not. -/
theorem launch_eq (m : Memory) (trade : Trade S P H V) (settings : HostSettings) (store : Watch S) :
    launch m trade settings store =
      ((Replay.allocate m settings.ingest.history settings.ingest.live : Except Crash (Replay Event)).mapError
        .crashed).map fun _ => start trade settings store := by
  have hspawn : (Engine.create trade).spawn.2 = .ok () := rfl
  rw [launch, hspawn, Ingestion.allocate]
  cases hc : (Replay.allocate m settings.ingest.history settings.ingest.live : Except Crash (Replay Event)) with
  | error cause => rfl
  | ok channel =>
    obtain ⟨-, rfl⟩ := Memory.allocate_eq_ok_iff.1 hc
    rfl

theorem eq_start_of_launch {m : Memory} {trade : Trade S P H V} {settings : HostSettings} {store : Watch S}
    {h : Host S P H V} (hlaunch : launch m trade settings store = .ok h) : h = start trade settings store := by
  rw [launch_eq] at hlaunch
  obtain ⟨channel, -, hstart⟩ := map_eq_ok.1 hlaunch
  exact hstart.symm

/-- The task of the engine is spawned and has not yet run, and the engine is to make what the store asks for. -/
structure Started (h : Host S P H V) : Prop where
  spawned : h.engine.task = .ready
  wanted : h.engine.isStarted = true
  idle : h.calls = []

theorem started_start (trade : Trade S P H V) {settings : HostSettings} (h : settings.autostart = true)
    (store : Watch S) : (start trade settings store).Started := by
  rw [start]
  simp only [h, if_true]
  exact ⟨rfl, rfl, rfl⟩

end Host

namespace CommandLine

/-- A host of the kind that a mode asks for. -/
inductive ModeHost where
  | instances (h : InstanceHost)
  | profile (h : ProfileHost)

namespace ModeHost

def mode : ModeHost → Config.Mode
  | .instances _ => .instances
  | .profile _ => .profile

def Started : ModeHost → Prop
  | .instances h => h.Started
  | .profile h => h.Started

def drive (style : Report.Style) (stopAfter : Option Nat) : ModeHost → Transcript
  | .instances h =>
    CommandLine.drive InstanceEngine.trade (Listeners.instances []) (Report.instances style) stopAfter h
  | .profile h => CommandLine.drive ProfileEngine.trade (Listeners.profiles []) (Report.profile style) stopAfter h

end ModeHost

/-- What a run does before it prints anything. -/
def setUp (m : Memory) (env : Environment) (path : String) (mode : Config.Mode) (c : Config) :
    Except (Stop Error) ModeHost :=
  match mode with
  | .instances => (startInstances m env path c).map .instances
  | .profile => (startProfile m path c).map .profile

theorem run_eq (m : Memory) (env : Environment) (path : String) (style : Report.Style) (o : RunOptions) (c : Config) :
    run m env path style o c = (setUp m env path (o.mode.getD c.mode) c).map (·.drive style o.stopAfter) := by
  rw [run]
  cases o.mode.getD c.mode with
  | instances =>
    rw [setUp]
    cases startInstances m env path c <;> rfl
  | profile =>
    rw [setUp]
    cases startProfile m path c <;> rfl

/-! ## agreement -/

variable {m : Memory} {path : String} {c : Config} {mode : Config.Mode}

/-- The error of the check, and the one of a run for the same reason. -/
inductive Refusal (path : String) : Config.Error → Error → Prop
  | same (e : Config.Error) : Refusal path e (.ofConfig path e)
  | duplicate (id : String) :
    Refusal path (.validation "instances" (Config.duplicate id)) (.validation "id" (Config.duplicate id))

theorem Error.exitCode_ofConfig (path : String) (e : Config.Error) : (ofConfig path e).exitCode = 3 := by
  cases e <;> rfl

theorem Refusal.exitCode {e : Config.Error} {e' : Error} (h : Refusal path e e') : e'.exitCode = 3 := by
  cases h with
  | same => exact Error.exitCode_ofConfig path e
  | duplicate id => rfl

/-- What the check and the set-up come to, for a channel that can be made or not. -/
inductive Agree (path : String) (mode : Config.Mode) :
    Except Crash (Replay Event) → Except Config.Error Unit → Except (Stop Error) ModeHost → Prop
  | accepted {channel : Replay Event} {h : ModeHost} (started : h.Started) (kind : h.mode = mode) :
    Agree path mode (.ok channel) (.ok ()) (.ok h)
  | crashed {cause : Crash} : Agree path mode (.error cause) (.ok ()) (.error (.crashed cause))
  | refused {channel : Except Crash (Replay Event)} {e : Config.Error} {e' : Error} (reason : Refusal path e e') :
    Agree path mode channel (.error e) (.error (.failed e'))

/-- What a host that was launched comes to. -/
theorem agree_launch {S P H V : Type} (kind : Host S P H V → ModeHost) (trade : Trade S P H V) (store : Watch S)
    {settings : HostSettings} (hsettings : c.hostSettings = .ok settings)
    (hkind : ∀ h, h.Started → (kind h).Started ∧ (kind h).mode = mode) :
    Agree path mode (c.channel m) (.ok ())
      (((Host.launch m trade settings store).mapError (·.map .ofFailure)).map kind) := by
  obtain ⟨hhistory, hlive⟩ := Config.capacities_hostSettings hsettings
  rw [Host.launch_eq, hhistory, hlive, ← Config.channel]
  cases c.channel m with
  | error cause => exact .crashed
  | ok channel =>
    obtain ⟨hstarted, hmode⟩ := hkind _ (Host.started_start trade (Config.autostart_hostSettings hsettings) store)
    exact .accepted hstarted hmode

theorem agree_instances (m : Memory) (env : Environment) (path : String) (c : Config) :
    Agree path .instances (c.channel m) (Config.validate env { c with mode := .instances })
      (setUp m env path .instances c) := by
  have hvalidate : Config.validate env { c with mode := .instances } =
      (do let _ ← c.hostSettings; Config.checkDistinct (← c.instanceRecords env)) := rfl
  rw [hvalidate, setUp, startInstances]
  cases hsettings : c.hostSettings with
  | error e => exact .refused (.same e)
  | ok settings =>
    cases hrecords : c.instanceRecords env with
    | error e => exact .refused (.same e)
    | ok records =>
      simp only [mapError_ok, bind, Except.bind]
      obtain ⟨hdistinct, hall⟩ | ⟨id, hdistinct, hall⟩ := Config.checks_of_valid (Config.valid_instanceRecords hrecords)
      · rw [hdistinct, InstanceStore.ofRecords_of_ok hall]
        exact agree_launch .instances _ _ hsettings fun _ h => ⟨h, rfl⟩
      · rw [hdistinct, InstanceStore.ofRecords_of_error hall]
        exact .refused (.duplicate id)

theorem agree_profile (m : Memory) (env : Environment) (path : String) (c : Config) :
    Agree path .profile (c.channel m) (Config.validate env { c with mode := .profile })
      (setUp m env path .profile c) := by
  have hvalidate : Config.validate env { c with mode := .profile } =
      (do let _ ← c.hostSettings; let _ ← c.profileSet) := rfl
  rw [hvalidate, setUp, startProfile]
  cases hsettings : c.hostSettings with
  | error e => exact .refused (.same e)
  | ok settings =>
    cases hset : c.profileSet with
    | error e => exact .refused (.same e)
    | ok set =>
      have hstore := ProfileStore.ofSet_eq_ok_iff.2 ⟨Config.valid_profileSet hset, rfl⟩
      simp only [mapError_ok, bind, Except.bind, hstore]
      exact agree_launch .profile _ _ hsettings fun _ h => ⟨h, rfl⟩

theorem agree (m : Memory) (env : Environment) (path : String) (mode : Config.Mode) (c : Config) :
    Agree path mode (c.channel m) (Config.validate env { c with mode }) (setUp m env path mode c) := by
  cases mode with
  | instances => exact agree_instances m env path c
  | profile => exact agree_profile m env path c

/-- **A run starts what the check accepts and nothing else, as far as there is room for the events**, whatever the
machine, the configuration, the environment and the mode that is asked for instead of the one that is written down.
The host is of the kind of the mode and has its engine started, and only then is there anything printed. A
configuration that is refused is refused by both, for the same reason and with the exit code of a fault of the
configuration; the two name the same field, unless an id stands twice. A configuration that is accepted and for whose
channel there is no room crashes the run, and nothing else does. -/
theorem config_check_agrees_with_run (m : Memory) (env : Environment) (path : String) (override : Option Config.Mode)
    (c : Config) :
    let mode := override.getD c.mode
    let checked := Config.validate env { c with mode }
    let started := setUp m env path mode c
    ((∃ h, started = .ok h) ↔ checked = .ok () ∧ m.Fits c.feed.history.toNat c.feed.live.toNat) ∧
      (∀ h, started = .ok h → h.Started ∧ h.mode = mode) ∧
      (∀ e, checked = .error e → (Error.ofConfig path e).exitCode = 3 ∧
        ∃ e', started = .error (.failed e') ∧ e'.exitCode = 3 ∧ Refusal path e e') ∧
      (∀ e', started = .error (.failed e') → e'.exitCode = 3 ∧
        ∃ e, checked = .error e ∧ (Error.ofConfig path e).exitCode = 3 ∧ Refusal path e e') ∧
      (∀ cause, started = .error (.crashed cause) ↔ checked = .ok () ∧ c.channel m = .error cause) ∧
      ∀ style o, o.mode = override → run m env path style o c = started.map (·.drive style o.stopAfter) := by
  intro mode checked started
  have hagree : Agree path mode (c.channel m) checked started := agree m env path mode c
  have hrun : ∀ style o, o.mode = override → run m env path style o c = started.map (·.drive style o.stopAfter) := by
    rintro style o rfl
    exact run_eq m env path style o c
  have hfits : (∃ channel, c.channel m = .ok channel) ↔ m.Fits c.feed.history.toNat c.feed.live.toNat :=
    ⟨fun ⟨_, h⟩ => (Memory.allocate_eq_ok_iff.1 h).1, fun h => ⟨_, Memory.allocate_eq_ok_iff.2 ⟨h, rfl⟩⟩⟩
  rw [← hfits]
  generalize c.channel m = channel at hagree ⊢
  generalize checked = r at hagree ⊢
  generalize started = r' at hagree hrun ⊢
  cases hagree with
  | accepted hstarted hmode =>
    refine ⟨iff_of_true ⟨_, rfl⟩ ⟨rfl, _, rfl⟩, fun h hh => ?_, fun e he => ?_, fun e he => ?_, fun cause => ?_, hrun⟩
    · cases hh
      exact ⟨hstarted, hmode⟩
    · cases he
    · cases he
    · exact iff_of_false (fun h => by cases h) fun h => by cases h.2
  | crashed =>
    refine ⟨iff_of_false (fun ⟨_, h⟩ => by cases h) (fun ⟨_, _, h⟩ => by cases h), fun h hh => ?_, fun e he => ?_,
      fun e he => ?_, fun cause => ?_, hrun⟩
    · cases hh
    · cases he
    · cases he
    · exact ⟨fun h => by cases h; exact ⟨rfl, rfl⟩, fun h => by cases h.2; rfl⟩
  | refused reason =>
    refine ⟨iff_of_false (fun ⟨_, h⟩ => by cases h) (fun h => by cases h.1), fun h hh => ?_, fun e he => ?_,
      fun e he => ?_, fun cause => ?_, hrun⟩
    · cases hh
    · cases he
      exact ⟨Error.exitCode_ofConfig path _, _, rfl, reason.exitCode, reason⟩
    · cases he
      exact ⟨reason.exitCode, _, rfl, Error.exitCode_ofConfig path _, reason⟩
    · exact iff_of_false (fun h => by cases h) fun h => by cases h.1

/-- A history of more events than can be addressed passes the check, and a run of it crashes on every machine. -/
theorem run_crashes_on_huge_history :
    let c : Config := { feed := { history := 9223372036854775807 } }
    (Config.load (some "[feed]\nhistory = 9223372036854775807\n") []).toOption = some c ∧
      Config.validate [] c = .ok () ∧
      ∀ m path, ∃ cause, setUp m [] path c.mode c = .error (.crashed cause) ∧ cause.exitCode ≠ 3 := by
  intro c
  have hvalid : Config.validate [] c = .ok () := rfl
  refine ⟨by decide +kernel, hvalid, fun m path => ?_⟩
  have hagree : Agree path c.mode (c.channel m) (Config.validate [] c) (setUp m [] path c.mode c) :=
    agree m [] path c.mode c
  rw [hvalid] at hagree
  cases hchannel : c.channel m with
  | ok channel =>
    have hfits : m.Fits c.feed.history.toNat c.feed.live.toNat := (Memory.allocate_eq_ok_iff.1 hchannel).1
    exact absurd hfits.history.1 (by decide)
  | error cause =>
    rw [hchannel] at hagree
    generalize setUp m [] path c.mode c = r at hagree ⊢
    cases hagree
    exact ⟨cause, rfl, by cases cause <;> decide⟩

/-- An id that stands twice: the check names the list, and a run names the id. -/
example :
    let entry : Config.InstanceEntry := ⟨none, "a", true, false, "relay", 443, "127.0.0.1:1080", some "k", none⟩
    let c : Config := { instances := [entry, entry] }
    Config.validate [] c = .error (.validation "instances" "duplicate id 'a'") ∧
      run .ample [] "config.toml" ⟨.text, false⟩ {} c = .error (.failed (.validation "id" "duplicate id 'a'")) := by
  exact ⟨by rfl, by rfl⟩

end CommandLine

end ProxyKeeper

/-
The records of a configuration as tables: what is written of a record gives the
record back (`Stores.take_table`).

Settings are kept in the order of their names, so the entries of a table come
in another order than they were written in, and those of what is not set do not
come at all. Neither matters: `Stores` says what each entry does to a record of
which some fields are stored already, whichever they are, and that the entries
together make up the record.
-/
import ProxyKeeper.Config.Document
import ProxyKeeper.Proofs.Data.Record

namespace ProxyKeeper.Config

open Data

/-! ## settings of a table -/

namespace Setting

theorem put_perm {name : String} {entries : Entries} (h : name ∉ entries.map (·.1)) (f : Option Setting → Setting) :
    (put name f entries).Perm ((name, f none) :: entries) := by
  induction entries with
  | nil => exact .refl _
  | cons entry entries ih =>
    obtain ⟨other, v⟩ := entry
    simp only [List.map_cons, List.mem_cons, not_or] at h
    rw [put, if_neg (Ne.symm h.1)]
    split
    · exact .refl _
    · exact ((ih h.2).cons _).trans (.swap _ _ _)

/-- The settings of a table are those of its entries, in another order. -/
theorem ofTomlEntries_perm {entries : List (String × Toml)} {done : Entries}
    (h : (entries.map (·.1) ++ done.map (·.1)).Nodup) :
    (ofTomlEntries entries done).Perm (entries.map (fun (name, v) => (name, ofToml v)) ++ done) := by
  induction entries generalizing done with
  | nil => exact .refl _
  | cons entry entries ih =>
    obtain ⟨name, v⟩ := entry
    rw [List.map_cons, List.cons_append, List.nodup_cons, List.mem_append, not_or] at h
    have hput : (put name (fun _ => ofToml v) done).Perm ((name, ofToml v) :: done) := put_perm h.1.2 _
    have hnodup : (entries.map (·.1) ++ (put name (fun _ => ofToml v) done).map (·.1)).Nodup := by
      refine ((hput.map (·.1)).append_left _).nodup_iff.2 ?_
      rw [List.map_cons, List.perm_middle.nodup_iff, List.nodup_cons, List.mem_append, not_or]
      exact ⟨h.1, h.2⟩
    rw [ofTomlEntries, List.map_cons, List.cons_append]
    exact (ih hnodup).trans ((hput.append_left _).trans List.perm_middle)

theorem datumEntries_eq (path : List String) (entries : Entries) :
    datumEntries path entries = entries.map fun (name, v) => (path, none, name, v.datum (path ++ [name])) := by
  induction entries with
  | nil => rfl
  | cons entry entries ih =>
    obtain ⟨name, v⟩ := entry
    rw [datumEntries, ih, List.map_cons]

end Setting

/-- A value as a datum. -/
def datumOf (path : List String) (v : Toml) : Setting.PathDatum := (Setting.ofToml v).datum path

section

variable {α : Type} {s : Shape (List String) Empty α} {entries given : List (String × Toml)}
  {partly : List String → α} {a : α}

/-- The entry stores the field of its name: `partly` tells what the record is when the fields of these names are
stored. -/
def Stored (s : Shape (List String) Empty α) (partly : List String → α) (p : String × Toml) : Prop :=
  ∃ f, s.fields.find? (·.answersTo p.1) = some f ∧ f.name = p.1 ∧
    ∀ path seen, f.store (datumOf path p.2) (partly seen) = .ok (partly (p.1 :: seen))

theorem stored_of {β : Type} {name : String} {absence : Absence} {take : Take (List String) Empty β}
    {put : β → α → α} {v : Toml} {b : β}
    (hfind : s.fields.find? (·.answersTo name) = some (.of name absence take put))
    (htake : ∀ path, take (datumOf path v) = .ok b) (hput : ∀ seen, put b (partly seen) = partly (name :: seen)) :
    Stored s partly (name, v) := by
  refine ⟨_, hfind, rfl, fun path seen => ?_⟩
  have hstore : (take (datumOf path v)).map (put · (partly seen)) = .ok (partly (name :: seen)) := by
    rw [htake, ← hput]
    rfl
  exact hstore

/-- The entries of a table store a record, all of them together. -/
structure Stores (s : Shape (List String) Empty α) (entries : List (String × Toml)) (partly : List String → α)
    (a : α) : Prop where
  names : (entries.map (·.1)).Sublist (s.fields.map (·.name))
  nodup : (s.fields.map (·.name)).Nodup
  blank : partly [] = s.blank
  step : ∀ p ∈ entries, Stored s partly p
  refused : ∀ f ∈ s.fields, f.absence = .refused → f.name ∈ entries.map (·.1)
  whole : ∀ seen, (∀ name, name ∈ seen ↔ name ∈ entries.map (·.1)) → partly seen = a

/-- A table gives the record that its entries store, in whatever order they are. -/
theorem Stores.take_table (h : Stores s entries partly a) (hperm : given.Perm entries) (path : List String) :
    s.take (datumOf path (.table given)) = .ok a := by
  have hgiven : (given.map (·.1)).Nodup := (hperm.map (·.1)).nodup_iff.2 (h.nodup.sublist h.names)
  have hsettings : (Setting.ofTomlEntries given []).Perm
      (given.map (fun (name, v) => (name, Setting.ofToml v)) ++ []) :=
    Setting.ofTomlEntries_perm (by simpa using hgiven)
  rw [List.append_nil] at hsettings
  let members := Setting.datumEntries path (Setting.ofTomlEntries given [])
  have hmembers : members.Perm (given.map fun (name, v) => (path, none, name, datumOf (path ++ [name]) v)) := by
    have hdata := hsettings.map fun (name, v) =>
      (path, (none : Option Empty), name, Setting.datum (path ++ [name]) v)
    rw [List.map_map, ← Setting.datumEntries_eq] at hdata
    exact hdata
  have hnames : (members.map (·.2.2.1)).Perm (given.map (·.1)) := by
    have hkeys := hmembers.map (·.2.2.1)
    rwa [List.map_map] at hkeys
  have hmem : ∀ name, name ∈ members.map (·.2.2.1) ↔ name ∈ entries.map (·.1) := fun _ =>
    (hnames.trans (hperm.map _)).mem_iff
  have hfills : s.Fills partly members := by
    intro member hm
    obtain ⟨⟨name, v⟩, hv, rfl⟩ := List.mem_map.1 (hmembers.mem_iff.1 hm)
    obtain ⟨f, hfind, hname, hstore⟩ := h.step _ (hperm.mem_iff.1 hv)
    exact ⟨rfl, f, hfind, hname, hstore _⟩
  have htake : s.take (.fields path members (.closed path)) = .ok (partly (members.map (·.2.2.1)).reverse) :=
    Shape.take_of_fills path hfills h.blank (hnames.nodup_iff.2 hgiven) fun f hf ha =>
      (hmem _).2 (h.refused f hf ha)
  rw [h.whole _ fun name => by rw [List.mem_reverse, hmem]] at htake
  exact htake

/-- An array gives the list of what its elements give. -/
theorem take_list {take : Take (List String) Empty α} {toToml : α → Toml}
    (h : ∀ a path, take (datumOf path (toToml a)) = .ok a) (as : List α) (path : List String) :
    Take.listOf take (datumOf path (.array (as.map toToml))) = .ok as := by
  have hitems : ∀ k, Take.items take (Setting.datumItems path k (Setting.ofTomlItems (as.map toToml))) =
      .ok as := by
    induction as with
    | nil => exact fun _ => rfl
    | cons a as ih =>
      intro k
      have ha : take ((Setting.ofToml (toToml a)).datum (path ++ [toString k])) = .ok a := h a _
      rw [List.map_cons, Setting.ofTomlItems, Setting.datumItems, Take.items, ha]
      simp only [bind, Except.bind, ih]
      rfl
  simp only [datumOf, Setting.ofToml, Setting.datum, Take.listOf, hitems]
  rfl

end

/-! ## values -/

theorem take_text (s : String) (path : List String) : Take.text (datumOf path (.text s)) = .ok s := rfl

theorem take_flag (b : Bool) (path : List String) : Take.flag (datumOf path (.flag b)) = .ok b := rfl

theorem take_orNull_text (s : String) (path : List String) :
    Take.orNull Take.text (datumOf path (.text s)) = .ok (some s) := rfl

theorem take_natural {bound : Nat} (label : String) {n : Nat} (h : n < bound) (path : List String) :
    Take.natural bound label (datumOf path (.integer n)) = .ok n := Take.natural_eq_ok rfl h label path

theorem take_port (p : UInt16) (path : List String) : Take.port (datumOf path (portValue p)) = .ok p := by
  rw [Take.port, Take.map, portValue, take_natural _ p.toNat_lt]
  simp [Except.map]

theorem take_orNull_port (p : UInt16) (path : List String) :
    Take.orNull Take.port (datumOf path (portValue p)) = .ok (some p) := by
  have hport := take_port p path
  rw [portValue] at hport ⊢
  simp only [datumOf, Setting.ofToml, Setting.datum, Take.orNull] at hport ⊢
  rw [hport]
  rfl

theorem take_long (label : String) (n : UInt64) (path : List String) :
    takeLong label (datumOf path (.integer n.toNat)) = .ok n := by
  rw [takeLong, Take.map, take_natural label n.toNat_lt]
  simp [Except.map]

theorem take_mode (mode : Mode) (path : List String) : Mode.take (datumOf path (.text mode.name)) = .ok mode := by
  cases mode <;> rfl

/-! ## fields -/

/-- The value of a field that was given, and else what it was before. -/
def pick {β : Type} (seen : List String) (name : String) (value before : β) : β :=
  if name ∈ seen then value else before

section

variable {β : Type} {seen : List String} {name other : String} {value : Option β} {toToml : β → Toml}

@[simp] theorem pick_self (name : String) (seen : List String) (value before : β) :
    pick (name :: seen) name value before = value := if_pos List.mem_cons_self

theorem pick_other (h : name ≠ other) (seen : List String) (value before : β) :
    pick (other :: seen) name value before = pick seen name value before := by
  simp [pick, h]

/-- A field that is given only if there is a value. -/
theorem pick_optional (h : name ∈ seen ↔ value.isSome = true) : pick seen name value none = value := by
  cases value <;> simp_all [pick]

theorem forall_mem_optional {P : String × Toml → Prop} :
    (∀ p ∈ (value.map fun b => (name, toToml b)).toList, P p) ↔ ∀ b, value = some b → P (name, toToml b) := by
  cases value <;> simp

@[simp] theorem mem_names_optional {x : String} :
    x ∈ ((value.map fun b => (name, toToml b)).toList).map (·.1) ↔ x = name ∧ value.isSome = true := by
  cases value <;> simp

theorem names_optional (name : String) (toToml : β → Toml) (value : Option β) :
    (((value.map fun b => (name, toToml b)).toList).map (·.1)).Sublist [name] := by
  cases value
  · exact List.nil_sublist _
  · exact .refl _

end

/-! ### the feed -/

def FeedSettings.entries (s : FeedSettings) : List (String × Toml) :=
  [("scheme", .text s.endpoint.scheme), ("host", .text s.endpoint.host), ("path", .text s.endpoint.path)] ++
    (s.port.map fun p => ("port", portValue p)).toList ++
    [("reconnect_initial_ms", .integer s.reconnectInitial.toNat),
      ("reconnect_max_ms", .integer s.reconnectMax.toNat), ("history", .integer s.history.toNat),
      ("live_capacity", .integer s.live.toNat), ("batch_ms", .integer s.window.toNat)]

/-- The settings of which the fields of these names are stored. -/
def FeedSettings.partly (s : FeedSettings) (seen : List String) : FeedSettings :=
  let default : FeedSettings := {}
  ⟨⟨pick seen "scheme" s.endpoint.scheme default.endpoint.scheme,
      pick seen "host" s.endpoint.host default.endpoint.host,
      pick seen "path" s.endpoint.path default.endpoint.path⟩,
    pick seen "port" s.port none, pick seen "reconnect_initial_ms" s.reconnectInitial default.reconnectInitial,
    pick seen "reconnect_max_ms" s.reconnectMax default.reconnectMax, pick seen "history" s.history default.history,
    pick seen "live_capacity" s.live default.live, pick seen "batch_ms" s.window default.window⟩

theorem FeedSettings.stores (s : FeedSettings) : Stores FeedSettings.shape s.entries s.partly s where
  names := by
    simp only [FeedSettings.entries, List.map_append]
    exact ((List.Sublist.refl _).append (names_optional _ _ _)).append (.refl _)
  nodup := by decide
  blank := rfl
  step := by
    simp only [FeedSettings.entries, List.forall_mem_append, forall_mem_optional, List.forall_mem_cons]
    refine ⟨⟨⟨stored_of rfl (take_text _) ?_, stored_of rfl (take_text _) ?_, stored_of rfl (take_text _) ?_,
      List.forall_mem_nil _⟩, fun port hport => stored_of rfl (take_orNull_port port) ?_⟩,
      stored_of rfl (take_long _ _) ?_, stored_of rfl (take_long _ _) ?_, stored_of rfl (take_long _ _) ?_,
      stored_of rfl (take_long _ _) ?_, stored_of rfl (take_long _ _) ?_, List.forall_mem_nil _⟩ <;>
      intro seen <;>
      simp [FeedSettings.partly, pick_other, *]
  refused := by simp [FeedSettings.shape, Field.of]
  whole seen h := by
    have hport : "port" ∈ seen ↔ s.port.isSome := by simp [h, FeedSettings.entries]
    simp only [FeedSettings.partly, pick_optional hport]
    simp [pick, h, FeedSettings.entries]

/-! ### the ports -/

def Ports.entries (s : Ports) : List (String × Toml) :=
  [("http_proxy", portValue s.httpProxy), ("socks5_proxy", portValue s.socks5Proxy),
    ("api_server", portValue s.apiServer)]

/-- The ports of which the fields of these names are stored. -/
def Ports.partly (s : Ports) (seen : List String) : Ports :=
  let default : Ports := {}
  ⟨pick seen "http_proxy" s.httpProxy default.httpProxy, pick seen "socks5_proxy" s.socks5Proxy default.socks5Proxy,
    pick seen "api_server" s.apiServer default.apiServer⟩

theorem Ports.stores (s : Ports) : Stores Ports.shape s.entries s.partly s where
  names := .refl _
  nodup := by decide
  blank := rfl
  step := by
    simp only [Ports.entries, List.forall_mem_cons]
    refine ⟨stored_of rfl (take_port _) ?_, stored_of rfl (take_port _) ?_, stored_of rfl (take_port _) ?_,
      List.forall_mem_nil _⟩ <;>
      intro seen <;>
      simp [Ports.partly, pick_other]
  refused := by simp [Ports.shape, Field.of]
  whole seen h := by simp [Ports.partly, pick, h, Ports.entries]

/-! ### profiles -/

def profileEntries (p : Profile) : List (String × Toml) :=
  [("id", .text p.id), ("name", .text p.name), ("main_server_url", .text p.mainServerUrl)] ++
    optional "ai_server_url" p.aiServerUrl ++ optional "tailscale_server_url" p.tailscaleServerUrl

/-- The profile of which the fields of these names are stored. -/
def partlyProfile (p : Profile) (seen : List String) : Profile :=
  ⟨pick seen "id" p.id "", pick seen "name" p.name "", pick seen "main_server_url" p.mainServerUrl "",
    pick seen "ai_server_url" p.aiServerUrl none, pick seen "tailscale_server_url" p.tailscaleServerUrl none⟩

theorem stores_profile (p : Profile) : Stores profileShape (profileEntries p) (partlyProfile p) p where
  names := by
    simp only [profileEntries, optional, List.map_append]
    exact ((List.Sublist.refl _).append (names_optional _ _ _)).append (names_optional _ _ _)
  nodup := by decide
  blank := rfl
  step := by
    simp only [profileEntries, optional, List.forall_mem_append, forall_mem_optional, List.forall_mem_cons]
    refine ⟨⟨⟨stored_of rfl (take_text _) ?_, stored_of rfl (take_text _) ?_, stored_of rfl (take_text _) ?_,
      List.forall_mem_nil _⟩, fun ai hai => stored_of rfl (take_orNull_text ai) ?_⟩,
      fun tailscale htailscale => stored_of rfl (take_orNull_text tailscale) ?_⟩ <;>
      intro seen <;>
      simp [partlyProfile, pick_other, *]
  refused := by simp [profileShape, Field.of, profileEntries]
  whole seen h := by
    have hai : "ai_server_url" ∈ seen ↔ p.aiServerUrl.isSome := by simp [h, profileEntries, optional]
    have htailscale : "tailscale_server_url" ∈ seen ↔ p.tailscaleServerUrl.isSome := by
      simp [h, profileEntries, optional]
    simp only [partlyProfile, pick_optional hai, pick_optional htailscale]
    simp [pick, h, profileEntries]

/-! ### instances -/

def InstanceEntry.entries (e : InstanceEntry) : List (String × Toml) :=
  optional "id" e.id ++
    [("name", .text e.name), ("enabled", .flag e.enabled), ("use_websocket", .flag e.useWebsocket),
      ("server_host", .text e.serverHost), ("server_port", portValue e.serverPort),
      ("bind_address", .text e.bindAddress)] ++
    optional "key" e.key ++ optional "key_env" e.keyEnv

/-- The instance of which the fields of these names are stored. -/
def InstanceEntry.partly (e : InstanceEntry) (seen : List String) : InstanceEntry :=
  ⟨pick seen "id" e.id none, pick seen "name" e.name "", pick seen "enabled" e.enabled true,
    pick seen "use_websocket" e.useWebsocket false, pick seen "server_host" e.serverHost "",
    pick seen "server_port" e.serverPort 0, pick seen "bind_address" e.bindAddress "", pick seen "key" e.key none,
    pick seen "key_env" e.keyEnv none⟩

theorem InstanceEntry.stores (e : InstanceEntry) : Stores InstanceEntry.shape e.entries e.partly e where
  names := by
    simp only [InstanceEntry.entries, optional, List.map_append]
    exact (((names_optional _ _ _).append (.refl _)).append (names_optional _ _ _)).append (names_optional _ _ _)
  nodup := by decide
  blank := rfl
  step := by
    simp only [InstanceEntry.entries, optional, List.forall_mem_append, forall_mem_optional, List.forall_mem_cons]
    refine ⟨⟨⟨fun id hid => stored_of rfl (take_orNull_text id) ?_, stored_of rfl (take_text _) ?_,
      stored_of rfl (take_flag _) ?_, stored_of rfl (take_flag _) ?_, stored_of rfl (take_text _) ?_,
      stored_of rfl (take_port _) ?_, stored_of rfl (take_text _) ?_, List.forall_mem_nil _⟩,
      fun key hkey => stored_of rfl (take_orNull_text key) ?_⟩,
      fun keyEnv hkeyEnv => stored_of rfl (take_orNull_text keyEnv) ?_⟩ <;>
      intro seen <;>
      simp [InstanceEntry.partly, pick_other, *]
  refused := by simp [InstanceEntry.shape, Field.of, InstanceEntry.entries]
  whole seen h := by
    have hid : "id" ∈ seen ↔ e.id.isSome := by simp [h, InstanceEntry.entries, optional]
    have hkey : "key" ∈ seen ↔ e.key.isSome := by simp [h, InstanceEntry.entries, optional]
    have hkeyEnv : "key_env" ∈ seen ↔ e.keyEnv.isSome := by simp [h, InstanceEntry.entries, optional]
    simp only [InstanceEntry.partly, pick_optional hid, pick_optional hkey, pick_optional hkeyEnv]
    simp [pick, h, InstanceEntry.entries]

/-! ### the whole -/

def entries (c : Config) : List (String × Toml) :=
  [("mode", .text c.mode.name), ("feed", .table c.feed.entries), ("ports", .table c.ports.entries)] ++
    optional "active_profile" c.activeProfile ++
    [("profiles", .array (c.profiles.map profileToml)), ("instances", .array (c.instances.map (·.toToml)))]

/-- The configuration of which the fields of these names are stored. -/
def partly (c : Config) (seen : List String) : Config :=
  ⟨pick seen "mode" c.mode .instances, pick seen "feed" c.feed {}, pick seen "ports" c.ports {},
    pick seen "active_profile" c.activeProfile none, pick seen "profiles" c.profiles [],
    pick seen "instances" c.instances []⟩

theorem stores (c : Config) : Stores shape c.entries c.partly c where
  names := by
    simp only [entries, optional, List.map_append]
    exact ((List.Sublist.refl _).append (names_optional _ _ _)).append (.refl _)
  nodup := by decide
  blank := rfl
  step := by
    have hfeed : ∀ path, takeRecord FeedSettings.shape (datumOf path (.table c.feed.entries)) = .ok c.feed :=
      c.feed.stores.take_table (.refl _)
    have hports : ∀ path, takeRecord Ports.shape (datumOf path (.table c.ports.entries)) = .ok c.ports :=
      c.ports.stores.take_table (.refl _)
    have hprofile : ∀ p path, takeRecord profileShape (datumOf path (profileToml p)) = .ok p := fun p =>
      (stores_profile p).take_table (.refl _)
    have hinstance : ∀ (e : InstanceEntry) path, takeRecord InstanceEntry.shape (datumOf path e.toToml) = .ok e :=
      fun e => e.stores.take_table (.refl _)
    simp only [entries, optional, List.forall_mem_append, forall_mem_optional, List.forall_mem_cons]
    refine ⟨⟨⟨stored_of rfl (take_mode _) ?_, stored_of rfl hfeed ?_, stored_of rfl hports ?_, List.forall_mem_nil _⟩,
      fun active hactive => stored_of rfl (take_orNull_text active) ?_⟩,
      stored_of rfl (take_list hprofile _) ?_, stored_of rfl (take_list hinstance _) ?_, List.forall_mem_nil _⟩ <;>
      intro seen <;>
      simp [partly, pick_other, *]
  refused := by simp [shape, Field.of]
  whole seen h := by
    have hactive : "active_profile" ∈ seen ↔ c.activeProfile.isSome := by simp [h, entries, optional]
    simp only [partly, pick_optional hactive]
    simp [pick, h, entries]

end ProxyKeeper.Config

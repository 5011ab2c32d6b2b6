/-
The settings of a file over the defaults.

The slots of a configuration are single settings, two sections of such, and two
lists. The defaults give each of them as it is where nothing is set, so that a
file counts over them as it would without them (`take_over_defaults`).
-/
import ProxyKeeper.Proofs.Config.Sections

namespace ProxyKeeper.Config

open Data Setting

/-! ## the slots of the sections -/

def FeedSettings.slots : List (SettingSlot FeedSettings) :=
  [⟨"scheme", [], .allowed, String, Take.text, (·.endpoint.scheme),
      fun v s => { s with endpoint := { s.endpoint with scheme := v } }⟩,
    ⟨"host", [], .allowed, String, Take.text, (·.endpoint.host),
      fun v s => { s with endpoint := { s.endpoint with host := v } }⟩,
    ⟨"path", [], .allowed, String, Take.text, (·.endpoint.path),
      fun v s => { s with endpoint := { s.endpoint with path := v } }⟩,
    ⟨"port", [], .allowed, Option UInt16, Take.orNull Take.port, port, fun v s => { s with port := v }⟩,
    ⟨"reconnect_initial_ms", [], .allowed, UInt64, takeLong "u64", reconnectInitial,
      fun v s => { s with reconnectInitial := v }⟩,
    ⟨"reconnect_max_ms", [], .allowed, UInt64, takeLong "u64", reconnectMax,
      fun v s => { s with reconnectMax := v }⟩,
    ⟨"history", [], .allowed, UInt64, takeLong "usize", history, fun v s => { s with history := v }⟩,
    ⟨"live_capacity", [], .allowed, UInt64, takeLong "usize", live, fun v s => { s with live := v }⟩,
    ⟨"batch_ms", [], .allowed, UInt64, takeLong "u64", window, fun v s => { s with window := v }⟩]

def Ports.slots : List (SettingSlot Ports) :=
  [⟨"http_proxy", [], .allowed, UInt16, Take.port, httpProxy, fun v s => { s with httpProxy := v }⟩,
    ⟨"socks5_proxy", [], .allowed, UInt16, Take.port, socks5Proxy, fun v s => { s with socks5Proxy := v }⟩,
    ⟨"api_server", [], .allowed, UInt16, Take.port, apiServer, fun v s => { s with apiServer := v }⟩]

theorem FeedSettings.flat : Flat FeedSettings.shape FeedSettings.slots where
  fields := rfl
  distinct := by decide
  get_put := by simp [slots]
  get_put_of_ne := by simp [slots]
  plain := by simp [slots, Slot.names]
  optional := by simp [slots]
  single := by
    simp only [slots, List.forall_mem_cons]
    refine ⟨?_, ?_, ?_, ?_, ?_, ?_, ?_, ?_, ?_, List.forall_mem_nil _⟩ <;> intro path entries a h <;> cases h

theorem Ports.flat : Flat Ports.shape Ports.slots where
  fields := rfl
  distinct := by decide
  get_put := by simp [slots]
  get_put_of_ne := by simp [slots]
  plain := by simp [slots, Slot.names]
  optional := by simp [slots]
  single := by
    simp only [slots, List.forall_mem_cons]
    refine ⟨?_, ?_, ?_, List.forall_mem_nil _⟩ <;> intro path entries a h <;> cases h

/-! ## the slots of a configuration -/

/-- The entries of a group. -/
def Setting.entries : Setting → Entries
  | .group entries => entries
  | _ => []

/-- A section of single settings: where it stands in a configuration, and what the defaults give of it. -/
structure Section where
  name : String
  Value : Type
  shape : Shape (List String) Empty Value
  slots : List (SettingSlot Value)
  get : Config → Value
  put : Value → Config → Config
  flat : Flat shape slots
  ext : ∀ {r r'}, (∀ x ∈ slots, x.get r' = x.get r) → r' = r
  base : Entries
  base_sorted : Sorted base
  take_base : shape.take ((group base).datum [name]) = .ok shape.blank

def Section.feed : Section where
  name := "feed"
  Value := FeedSettings
  shape := FeedSettings.shape
  slots := FeedSettings.slots
  get := Config.feed
  put v c := { c with feed := v }
  flat := FeedSettings.flat
  ext {r r'} h := by
    obtain ⟨⟨scheme, host, path⟩, port, initial, max, history, live, window⟩ := r
    obtain ⟨⟨scheme', host', path'⟩, port', initial', max', history', live', window'⟩ := r'
    simpa [FeedSettings.slots, and_assoc] using h
  base := ({} : FeedSettings).toSetting.entries
  base_sorted := by decide
  take_base := rfl

def Section.ports : Section where
  name := "ports"
  Value := Ports
  shape := Ports.shape
  slots := Ports.slots
  get := Config.ports
  put v c := { c with ports := v }
  flat := Ports.flat
  ext {r r'} h := by
    obtain ⟨http, socks, api⟩ := r
    obtain ⟨http', socks', api'⟩ := r'
    simpa [Ports.slots] using h
  base := ({} : Ports).toSetting.entries
  base_sorted := by decide
  take_base := rfl

def sections : List Section := [.feed, .ports]

/-- The section as a slot of the configuration. -/
def Section.slot (z : Section) : SettingSlot Config := ⟨z.name, [], .allowed, z.Value, takeRecord z.shape, z.get, z.put⟩

def modeSlot : SettingSlot Config := ⟨"mode", [], .allowed, Mode, Mode.take, mode, fun v c => { c with mode := v }⟩

def activeProfileSlot : SettingSlot Config :=
  ⟨"active_profile", [], .allowedByName, Option String, Take.orNull Take.text, activeProfile,
    fun v c => { c with activeProfile := v }⟩

/-- The settings that stand in no section. -/
def singles : List (SettingSlot Config) := [modeSlot, activeProfileSlot]

def profilesSlot : SettingSlot Config :=
  ⟨"profiles", [], .allowed, List Profile, Take.listOf (takeRecord profileShape), profiles,
    fun v c => { c with profiles := v }⟩

def instancesSlot : SettingSlot Config :=
  ⟨"instances", [], .allowed, List InstanceEntry, Take.listOf (takeRecord InstanceEntry.shape), instances,
    fun v c => { c with instances := v }⟩

def lists : List (SettingSlot Config) := [profilesSlot, instancesSlot]

def slots : List (SettingSlot Config) :=
  [modeSlot, Section.feed.slot, Section.ports.slot, activeProfileSlot, profilesSlot, instancesSlot]

variable {c c' : Config} {x : SettingSlot Config} {z : Section} {entries : Entries} {v : Setting}

theorem mem_slots : x ∈ slots ↔ (∃ z ∈ sections, x = z.slot) ∨ x ∈ singles ++ lists := by
  simp only [slots, sections, singles, lists, List.mem_cons, List.not_mem_nil, or_false, exists_eq_or_imp,
    exists_eq_left, List.cons_append, List.nil_append]
  grind

theorem Section.slot_mem (hz : z ∈ sections) : z.slot ∈ Config.slots := mem_slots.2 (.inl ⟨z, hz, rfl⟩)

theorem single_mem (hx : x ∈ singles) : x ∈ slots := mem_slots.2 (.inr (List.mem_append_left _ hx))

theorem list_mem (hx : x ∈ lists) : x ∈ slots := mem_slots.2 (.inr (List.mem_append_right _ hx))

theorem slots_optional : Optional shape slots := by
  refine ⟨⟨rfl, by decide, ?_, ?_⟩, ?_, ?_⟩ <;>
    simp [slots, modeSlot, Section.slot, Section.feed, Section.ports, activeProfileSlot, profilesSlot, instancesSlot,
      Slot.names]

theorem eq_of_slots (h : ∀ x ∈ slots, x.get c' = x.get c) : c' = c := by
  obtain ⟨mode, feed, ports, active, profiles, instances⟩ := c
  obtain ⟨mode', feed', ports', active', profiles', instances'⟩ := c'
  simpa [slots, modeSlot, Section.slot, Section.feed, Section.ports, activeProfileSlot, profilesSlot,
    instancesSlot] using h

/-! ## what the defaults give -/

theorem defaults_sorted : Sorted defaults.entries := by decide

theorem take_defaults : shape.take ((group defaults.entries).datum []) = .ok {} := rfl

theorem defaults_section (hz : z ∈ sections) : defaults.entries.lookup z.name = some (.group z.base) := by
  simp only [sections, List.mem_cons, List.not_mem_nil, or_false] at hz
  rcases hz with rfl | rfl <;> rfl

/-- What the defaults give that stands in no section is no group, so it does not count under anything. -/
theorem laid_defaults (hx : x ∈ singles ++ lists) (v : Setting) : laid defaults.entries x.name v = v := by
  have hplain : ∃ old, defaults.entries.lookup x.name = some old ∧ ∀ low, old ≠ .group low := by
    simp only [singles, lists, List.cons_append, List.nil_append, List.mem_cons, List.not_mem_nil, or_false] at hx
    rcases hx with rfl | rfl | rfl | rfl <;> exact ⟨_, rfl, nofun⟩
  obtain ⟨old, hold, hgroup⟩ := hplain
  rw [laid, hold]
  rcases overlay_cases old v with ⟨low, _, hlow, _⟩ | hv
  · exact absurd hlow (hgroup low)
  · exact hv

theorem laid_section (hz : z ∈ sections) (v : Setting) :
    laid defaults.entries z.name v = (group z.base).overlay v := by
  rw [laid, defaults_section hz]

theorem Section.base_ordered (z : Section) : Ordered (.group z.base) := fun _ he => group.inj he ▸ z.base_sorted

/-- A section counts over the defaults as it would without them. -/
theorem Section.take_over_base (z : Section) (hv : Ordered v) {r : z.Value}
    (ht : takeRecord z.shape (v.datum [z.name]) = .ok r) :
    takeRecord z.shape (((group z.base).overlay v).datum [z.name]) = .ok r := by
  obtain ⟨entries, rfl⟩ | ⟨items, rfl⟩ := takeRecord_eq_ok ht
  · have hsorted := hv entries rfl
    have htaken : ∀ x ∈ z.slots, _ := fun x hx => z.flat.holds_group hsorted ht hx
    obtain ⟨r', hr, hslots⟩ := z.flat.take_overlay z.base_ordered (fun _ he => by cases he) z.take_base hsorted
      fun x hx v hv => ⟨_, (htaken x hx).1 v hv⟩
    have hsame : r' = r := z.ext fun x hx => by
      cases hentry : entries.lookup x.name with
      | none => rw [(hslots x hx).2 hentry, (htaken x hx).2 hentry]
      | some w => exact Except.ok.inj (((hslots x hx).1 w hentry).symm.trans ((htaken x hx).1 w hentry))
    exact hsame ▸ hr
  · rw [overlay_of_not_group fun _ h => by cases h]
    exact ht

/-- Entries in order, and so are those of the groups among them. -/
structure Tidy (entries : Entries) : Prop where
  sorted : Sorted entries
  ordered : ∀ p ∈ entries, Ordered p.2

/-- The settings of a file over the defaults. -/
abbrev overDefaults (entries : Entries) : Entries := overlayEntries defaults.entries entries

theorem overDefaults_sorted (entries : Entries) : Sorted (overDefaults entries) :=
  defaults_sorted.overlayEntries entries

/-- Settings count over the defaults as they would without them. -/
theorem take_over_defaults (htidy : Tidy entries)
    (ht : shape.take ((group entries).datum []) = .ok c) :
    shape.take ((group (overDefaults entries)).datum []) = .ok c := by
  have htaken : ∀ x ∈ slots, ∀ v, entries.lookup x.name = some v →
      x.take ((laid defaults.entries x.name v).datum [x.name]) = .ok (x.get c) := by
    intro x hx v hv
    have hgiven := (slots_optional.holds_group htidy.sorted ht hx).1 v hv
    rcases mem_slots.1 hx with ⟨z, hz, rfl⟩ | hx
    · have hov := z.take_over_base (htidy.ordered _ (mem_of_lookup hv)) hgiven
      rwa [← laid_section hz] at hov
    · rw [laid_defaults hx]
      exact hgiven
  obtain ⟨c', hc', hslots⟩ := slots_optional.take_overlay defaults_sorted htidy.sorted take_defaults fun x hx v hv =>
    ⟨_, htaken x hx v hv⟩
  have hsame : c' = c := eq_of_slots fun x hx => by
    cases hentry : entries.lookup x.name with
    | none => exact ((hslots x hx).2 hentry).trans ((slots_optional.holds_group htidy.sorted ht hx).2 hentry).symm
    | some v => exact Except.ok.inj (((hslots x hx).1 v hentry).symm.trans (htaken x hx v hentry))
  exact hsame ▸ hc'

/-! ## settings of a file -/

namespace Setting

theorem ofTomlEntries_sorted {entries : List (String × Toml)} {done : Entries} (h : Sorted done) :
    Sorted (ofTomlEntries entries done) := by
  induction entries generalizing done with
  | nil => exact h
  | cons entry entries ih => exact ih (h.put _ _)

theorem ordered_ofToml (v : Toml) : Ordered (ofToml v) := by
  intro entries he
  cases v with
  | table given =>
    rw [ofToml, group.injEq] at he
    exact he ▸ ofTomlEntries_sorted .nil
  | moment s =>
    rw [ofToml, group.injEq] at he
    exact he ▸ List.pairwise_singleton _ _
  | text | integer | float | flag | array => cases he

theorem forall_ofTomlEntries {P : Setting → Prop} (h : ∀ v, P (ofToml v)) {entries : List (String × Toml)}
    {done : Entries} (hdone : ∀ p ∈ done, P p.2) : ∀ p ∈ ofTomlEntries entries done, P p.2 := by
  induction entries generalizing done with
  | nil => exact hdone
  | cons entry entries ih => exact ih (forall_put (P := fun p => P p.2) (fun _ => h entry.2) hdone)

end Setting

/-- The settings of a file are a group. -/
theorem fileSettings_eq_ok {file : Option String} {settings : Setting} (h : fileSettings file = .ok settings) :
    ∃ entries, settings = .group entries ∧ Tidy entries := by
  cases file with
  | none =>
    cases h
    exact ⟨[], rfl, .nil, List.forall_mem_nil _⟩
  | some text =>
    rw [fileSettings] at h
    cases hread : Toml.read? text with
    | none => rw [hread] at h; cases h
    | some given =>
      rw [hread] at h
      cases h
      exact ⟨_, rfl, ofTomlEntries_sorted .nil, forall_ofTomlEntries ordered_ofToml (List.forall_mem_nil _)⟩

theorem ofSetting_eq_ok {s : Setting} : ofSetting s = .ok c ↔ shape.take (s.datum []) = .ok c := by
  rw [ofSetting]
  split
  · rename_i c' hc
    rw [hc, Except.ok.injEq, Except.ok.injEq]
  · rename_i path cause he
    rw [he]
    exact iff_of_false nofun nofun

/-- What is loaded is taken from the defaults, the file and the environment, laid over one another. -/
theorem load_eq {file : Option String} {env : Environment} {high : Entries}
    (hfile : fileSettings file = .ok (.group entries)) (henv : env.settings = .group high) :
    load file env = ofSetting (.group (overlayEntries (overDefaults entries) high)) := by
  have hdefaults : defaults = .group defaults.entries := rfl
  rw [load, hfile, henv, hdefaults]
  exact congrArg ofSetting (by rw [overlay_group, overlay_group])

end ProxyKeeper.Config

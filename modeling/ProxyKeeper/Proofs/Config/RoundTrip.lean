/-
A configuration that was saved loads back as it was.

What is saved is a document of values and sections (`document_entries`), so it
is read back with its values in front of its sections (`Toml.read?_render`); a
configuration is taken from its entries in any order (`Config.stores`), also
over the defaults (`take_over_defaults`).
-/
import ProxyKeeper.Proofs.Config.Defaults
import ProxyKeeper.Proofs.Toml.Document

namespace ProxyKeeper.Config

open Data

variable {α : Type} {s : Shape (List String) Empty α} {entries : List (String × Toml)} {partly : List String → α}
  {a : α}

/-! ## the document -/

theorem Stores.bare (h : Stores s entries partly a) (hbare : ∀ name ∈ s.fields.map (·.name), Toml.Bare name) :
    ∀ p ∈ entries, Toml.Bare p.1 := fun _ hp => hbare _ (h.names.subset (List.mem_map_of_mem hp))

theorem Stores.leaves (h : Stores s entries partly a) (hbare : ∀ name ∈ s.fields.map (·.name), Toml.Bare name)
    (hleaf : ∀ p ∈ entries, Toml.Leaf p.2) : Toml.Leaves entries :=
  ⟨h.nodup.sublist h.names, h.bare hbare, hleaf⟩

/-- A number below half of the range is one that can be written. -/
theorem isInteger_of_lt {n : Nat} (h : n < 0x8000000000000000) : Toml.isInteger n = true := by
  have hlow : -Toml.integerBound ≤ (n : Int) := by
    rw [Toml.integerBound]
    omega
  have hhigh : (n : Int) < Toml.integerBound := by
    rw [Toml.integerBound]
    omega
  rw [Toml.isInteger, decide_eq_true hlow, decide_eq_true hhigh]
  rfl

theorem leaf_portValue (p : UInt16) : Toml.Leaf (portValue p) :=
  .natural _ (isInteger_of_lt (Nat.lt_trans p.toNat_lt (by decide)))

/-- The numbers of 64 bits, of which a document holds those below half of the range. -/
def FeedSettings.longs (s : FeedSettings) : List UInt64 :=
  [s.reconnectInitial, s.reconnectMax, s.history, s.live, s.window]

theorem FeedSettings.leaves {s : FeedSettings} (h : ∀ n ∈ s.longs, n.toNat < 0x8000000000000000) : Toml.Leaves s.entries := by
  refine s.stores.leaves (by decide) ?_
  simp only [FeedSettings.longs, List.forall_mem_cons] at h
  simp only [FeedSettings.entries, List.forall_mem_append, forall_mem_optional, List.forall_mem_cons]
  exact ⟨⟨⟨.text _, .text _, .text _, List.forall_mem_nil _⟩, fun p _ => leaf_portValue p⟩,
    .natural _ (isInteger_of_lt h.1), .natural _ (isInteger_of_lt h.2.1), .natural _ (isInteger_of_lt h.2.2.1),
    .natural _ (isInteger_of_lt h.2.2.2.1), .natural _ (isInteger_of_lt h.2.2.2.2.1), List.forall_mem_nil _⟩

theorem Ports.leaves (s : Ports) : Toml.Leaves s.entries := by
  refine s.stores.leaves (by decide) ?_
  simp only [Ports.entries, List.forall_mem_cons]
  exact ⟨leaf_portValue _, leaf_portValue _, leaf_portValue _, List.forall_mem_nil _⟩

theorem leaves_profile (p : Profile) : Toml.Leaves (profileEntries p) := by
  refine (stores_profile p).leaves (by decide) ?_
  simp only [profileEntries, optional, List.forall_mem_append, forall_mem_optional, List.forall_mem_cons]
  exact ⟨⟨⟨.text _, .text _, .text _, List.forall_mem_nil _⟩, fun s _ => .text s⟩, fun s _ => .text s⟩

theorem InstanceEntry.leaves (e : InstanceEntry) : Toml.Leaves e.entries := by
  refine e.stores.leaves (by decide) ?_
  simp only [InstanceEntry.entries, optional, List.forall_mem_append, forall_mem_optional, List.forall_mem_cons]
  exact ⟨⟨⟨fun s _ => .text s, .text _, .flag _, .flag _, .text _, leaf_portValue _, .text _, List.forall_mem_nil _⟩,
    fun s _ => .text s⟩, fun s _ => .text s⟩

/-- An array of tables is a section, unless it is empty: then it is a value. -/
theorem kind_array {toToml : α → Toml} {entriesOf : α → List (String × Toml)}
    (htable : ∀ a, toToml a = .table (entriesOf a)) (h : ∀ a, Toml.Leaves (entriesOf a)) (as : List α) :
    Toml.Leaf (.array (as.map toToml)) ∨ Toml.Section (.array (as.map toToml)) := by
  cases as with
  | nil => exact .inl .nothing
  | cons a as =>
    right
    have hmap : (a :: as).map toToml = ((a :: as).map entriesOf).map .table := by
      rw [List.map_map]
      exact List.map_congr_left fun b _ => htable b
    rw [hmap, List.map_cons]
    refine .tables fun entries he => ?_
    obtain ⟨b, -, rfl⟩ := List.mem_map.1 (show entries ∈ (a :: as).map entriesOf from he)
    exact h b

theorem document_entries {c : Config} (h : ∀ n ∈ c.feed.longs, n.toNat < 0x8000000000000000) : Toml.Document c.entries where
  nodup := c.stores.nodup.sublist c.stores.names
  bare := c.stores.bare (by decide)
  kind := by
    simp only [entries, optional, List.forall_mem_append, forall_mem_optional, List.forall_mem_cons]
    exact ⟨⟨⟨.inl (.text _), .inr (.table (FeedSettings.leaves h)), .inr (.table c.ports.leaves), List.forall_mem_nil _⟩,
      fun s _ => .inl (.text s)⟩, kind_array (fun _ => rfl) leaves_profile _,
      kind_array (fun _ => rfl) InstanceEntry.leaves _, List.forall_mem_nil _⟩

/-! ## saving and loading -/

theorem longValue_of_lt {n : UInt64} (h : n.toNat < 0x8000000000000000) : longValue n = .ok (.integer n.toNat) :=
  if_pos (isInteger_of_lt h)

theorem toToml_eq {c : Config} (h : ∀ n ∈ c.feed.longs, n.toNat < 0x8000000000000000) : c.toToml = .ok c.entries := by
  have hlongs := h
  simp only [FeedSettings.longs, List.forall_mem_cons] at hlongs
  have hfeed : c.feed.toToml = .ok (.table c.feed.entries) := by
    simp only [FeedSettings.toToml, longValue_of_lt hlongs.1, longValue_of_lt hlongs.2.1,
      longValue_of_lt hlongs.2.2.1, longValue_of_lt hlongs.2.2.2.1, longValue_of_lt hlongs.2.2.2.2.1]
    rfl
  rw [toToml, hfeed]
  rfl

theorem settings_eq_nil {env : Environment}
    (h : ∀ p ∈ env, ¬Environment.settingPrefix.toList <+: Environment.lower p.1.toList) :
    env.settings = .group [] := by
  rw [Environment.settings]
  generalize Setting.group [] = done
  induction env with
  | nil => rfl
  | cons p env ih =>
    obtain ⟨name, value⟩ := p
    obtain ⟨hname, hrest⟩ := List.forall_mem_cons.1 h
    have hpath : Environment.settingPath? name = none :=
      if_neg fun hp => hname (List.isPrefixOf_iff_prefix.1 hp)
    rw [List.foldl_cons]
    simp only [hpath]
    exact ih hrest

/-- A document of the entries of a configuration, in any order, is loaded as the configuration. -/
theorem load_of_read {c : Config} {env : Environment} {text : String} {given : List (String × Toml)}
    (hread : Toml.read? text = some given) (hperm : given.Perm c.entries)
    (hunset : ∀ p ∈ env, ¬Environment.settingPrefix.toList <+: Environment.lower p.1.toList) :
    load (some text) env = .ok c := by
  have hfile : fileSettings (some text) = .ok (.group (Setting.ofTomlEntries given [])) := by
    rw [fileSettings, hread]
    rfl
  have htake : shape.take ((Setting.group (Setting.ofTomlEntries given [])).datum []) = .ok c :=
    c.stores.take_table hperm []
  obtain ⟨_, hgroup, htidy⟩ := fileSettings_eq_ok hfile
  cases hgroup
  rw [load_eq hfile (settings_eq_nil hunset), ofSetting_eq_ok]
  exact take_over_defaults htidy htake

/-- **A saved configuration loads back**, whatever its texts are and whichever of its optional fields are set, if
its numbers fit in 64 bits with a sign and no variable of the environment gives a setting: it is written as a
document, and what is loaded from that is the same in every field. -/
theorem saved_config_loads_back (c : Config) (env : Environment) (hfit : ∀ n ∈ c.feed.longs, n.toNat < 0x8000000000000000)
    (hunset : ∀ p ∈ env, ¬Environment.settingPrefix.toList <+: Environment.lower p.1.toList) :
    ∃ text, c.save = .ok text ∧ load (some text) env = .ok c := by
  have hsave : c.save = .ok (Toml.render c.entries) := by
    rw [save, toToml_eq hfit]
    rfl
  have hread := Toml.read?_render (document_entries hfit)
  exact ⟨_, hsave, load_of_read hread (List.perm_append_comm.trans (List.filter_append_perm _ _)) hunset⟩

/-- Texts of quotes, control characters and line ends, and a number at the bound. -/
theorem saved_config_of_quotes :
    let c : Config :=
      { mode := .profile
        feed := { port := some 0, history := 0x7FFFFFFFFFFFFFFF }
        activeProfile := some "\"\"\" and '''\n"
        profiles := [⟨"a", "\r\n\t\x7f", "C:\\\"", none, some ""⟩]
        instances := [⟨none, "é = [b]", false, true, "#", 65535, "\"\"\"\"", none, some "K\\"⟩] }
    let env : Environment := [("HOME", "/root"), ("PROXYHOS", "mode")]
    (∀ n ∈ c.feed.longs, n.toNat < 0x8000000000000000) ∧
      (∀ p ∈ env, ¬Environment.settingPrefix.toList <+: Environment.lower p.1.toList) ∧
      ∃ text, c.save = .ok text ∧ load (some text) env = .ok c := by
  intro c env
  have hall : c.feed.longs.all (·.toNat < 0x8000000000000000) = true := by decide
  have hfit : ∀ n ∈ c.feed.longs, n.toNat < 0x8000000000000000 := by simpa only [List.all_eq_true, decide_eq_true_eq] using hall
  have hunset : ∀ p ∈ env, ¬Environment.settingPrefix.toList <+: Environment.lower p.1.toList := by decide
  exact ⟨hfit, hunset, saved_config_loads_back c env hfit hunset⟩

end ProxyKeeper.Config

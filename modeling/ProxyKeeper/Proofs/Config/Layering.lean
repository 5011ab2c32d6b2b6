/-
The environment over a file, and the file over the defaults.

A configuration is its single settings, which are called knobs here, and its
profiles and instances. An environment that sets knobs, each of them once and to
something that it can be, changes what is loaded in just these
(`environment_over_file`). That is shown section by section: what is found in
the settings of an environment under the path of a knob is the value of the
variable for it, or nothing (`Sets.given`, `Sets.absent`), and of a section over
another one every knob is taken by itself (`Flat.take_overlay`).
-/
import Mathlib.Data.List.Nodup
import ProxyKeeper.Proofs.Config.Defaults

namespace ProxyKeeper

open Config Config.Setting

/-! ## names of variables -/

namespace Environment

theorem splitBy_ne_nil (p : Char → Bool) (s : List Char) : Text.splitBy p s ≠ [] := by
  cases s with
  | nil => nofun
  | cons c rest =>
    rw [Text.splitBy]
    split
    · nofun
    · split <;> nofun

theorem settingPath?_ne_nil {name : String} {path : List String} (h : settingPath? name = some path) : path ≠ [] := by
  simp only [settingPath?] at h
  split at h
  · split at h
    · cases h
    · cases h
      exact fun hnil => splitBy_ne_nil _ _ (List.map_eq_nil_iff.1 hnil)
  · cases h

/-- The settings of an environment are entries in order. -/
theorem settings_eq_group (env : Environment) : ∃ entries, env.settings = .group entries ∧ Sorted entries := by
  rw [settings_eq]
  have hstart : ∃ entries, Setting.group [] = .group entries ∧ Sorted entries := ⟨[], rfl, .nil⟩
  generalize Setting.group [] = done at hstart
  induction env generalizing done with
  | nil => exact hstart
  | cons p env ih =>
    refine ih _ ?_
    rw [lay]
    cases hpath : settingPath? p.1 with
    | none => exact hstart
    | some path =>
      obtain ⟨low, rfl, hlow⟩ := hstart
      obtain ⟨name, rest, rfl⟩ := List.exists_cons_of_ne_nil (settingPath?_ne_nil hpath)
      exact ⟨_, overlay_group _ _, hlow.overlayEntries _⟩

end Environment

namespace Config

open Data Environment

variable {file : Option String} {settings : Setting} {env : Environment} {c c' : Config} {z : Section}
  {entries high : Entries}

/-! ## knobs -/

/-- A single setting: its path, its place among those of its section, and what it is of a configuration. -/
structure Knob where
  path : List String
  place : Nat
  Value : Type
  take : Take (List String) Empty Value
  get : Config → Value

/-- A setting that stands in no section. -/
def Knob.single (x : SettingSlot Config) : Knob := ⟨[x.name], 0, x.Value, x.take, x.get⟩

def Section.knob (z : Section) (x : SettingSlot z.Value) (i : Nat) : Knob :=
  ⟨[z.name, x.name], i, x.Value, x.take, fun c => x.get (z.get c)⟩

def Section.knobs (z : Section) : List Knob := z.slots.zipIdx.map fun (x, i) => z.knob x i

def knobs : List Knob := singles.map Knob.single ++ sections.flatMap Section.knobs

variable {k : Knob}

theorem mem_sectionKnobs : k ∈ z.knobs ↔ ∃ x i, z.slots[i]? = some x ∧ k = z.knob x i := by
  simp only [Section.knobs, List.mem_map, Prod.exists, List.mem_zipIdx_iff_getElem?, eq_comm]

theorem mem_knobs : k ∈ knobs ↔ (∃ x ∈ singles, k = .single x) ∨ ∃ z ∈ sections, k ∈ z.knobs := by
  simp only [knobs, List.mem_append, List.mem_map, List.mem_flatMap, eq_comm]

theorem Knob.single_mem {x : SettingSlot Config} (hx : x ∈ singles) : .single x ∈ knobs :=
  mem_knobs.2 (.inl ⟨x, hx, rfl⟩)

theorem Section.knob_mem (hz : z ∈ sections) {x : SettingSlot z.Value} {i : Nat} (hi : z.slots[i]? = some x) :
    z.knob x i ∈ Config.knobs :=
  mem_knobs.2 (.inr ⟨z, hz, mem_sectionKnobs.2 ⟨x, i, hi, rfl⟩⟩)

/-- There is nothing else in a configuration. -/
theorem eq_of_knobs (h : ∀ k ∈ knobs, k.get c' = k.get c) (hprofiles : c'.profiles = c.profiles)
    (hinstances : c'.instances = c.instances) : c' = c := by
  refine eq_of_slots fun x hx => ?_
  rcases mem_slots.1 hx with ⟨z, hz, rfl⟩ | hx
  · refine z.ext fun x hx => ?_
    obtain ⟨i, hi⟩ := List.mem_iff_getElem?.1 hx
    exact h (z.knob x i) (Section.knob_mem hz hi)
  · rcases List.mem_append.1 hx with hx | hx
    · exact h (.single x) (Knob.single_mem hx)
    · simp only [lists, List.mem_cons, List.not_mem_nil, or_false] at hx
      rcases hx with rfl | rfl
      · exact hprofiles
      · exact hinstances

/-- The name of the variable for a knob. -/
def Knob.variable (k : Knob) : List Char :=
  "PROXYHOST_".toList ++ List.intercalate "__".toList (k.path.map fun name => name.toList.map Char.toUpper)

theorem settingPath?_variable : ∀ k ∈ knobs, settingPath? (.ofList k.variable) = some k.path := by
  simp only [settingPath?, String.toList_ofList]
  decide +kernel

example : knobs.map (fun k => String.ofList k.variable) =
    ["PROXYHOST_MODE", "PROXYHOST_ACTIVE_PROFILE", "PROXYHOST_FEED__SCHEME", "PROXYHOST_FEED__HOST",
      "PROXYHOST_FEED__PATH", "PROXYHOST_FEED__PORT", "PROXYHOST_FEED__RECONNECT_INITIAL_MS",
      "PROXYHOST_FEED__RECONNECT_MAX_MS", "PROXYHOST_FEED__HISTORY", "PROXYHOST_FEED__LIVE_CAPACITY",
      "PROXYHOST_FEED__BATCH_MS", "PROXYHOST_PORTS__HTTP_PROXY", "PROXYHOST_PORTS__SOCKS5_PROXY",
      "PROXYHOST_PORTS__API_SERVER"] := by decide +kernel

/-- The path of a knob begins with the name of a slot. -/
theorem path_eq_cons : ∀ k ∈ knobs, ∃ first rest, k.path = first :: rest ∧ first ∈ slots.map Slot.name := by
  intro k hk
  rcases mem_knobs.1 hk with ⟨x, hx, rfl⟩ | ⟨z, hz, hk⟩
  · exact ⟨x.name, [], rfl, List.mem_map_of_mem (single_mem hx)⟩
  · obtain ⟨x, i, -, rfl⟩ := mem_sectionKnobs.1 hk
    exact ⟨z.name, [x.name], rfl, List.mem_map_of_mem (f := Slot.name) (Section.slot_mem hz)⟩

/-- No path of a knob leads through another. -/
theorem knobs_apart {k k' : Knob} (hk : k ∈ knobs) (hk' : k' ∈ knobs) (hne : k.path ≠ k'.path) :
    Apart k.path k'.path := by
  have hall : ∀ p ∈ knobs.map (·.path), ∀ q ∈ knobs.map (·.path), p ≠ q → Apart p q := by decide +kernel
  exact hall _ (List.mem_map_of_mem hk) _ (List.mem_map_of_mem hk') hne

theorem eq_of_path {k k' : Knob} (hk : k ∈ knobs) (hk' : k' ∈ knobs) (h : k.path = k'.path) : k = k' := by
  have hnodup : (knobs.map (·.path)).Nodup := by decide +kernel
  exact List.inj_on_of_nodup_map hnodup hk hk' h

theorem section_apart (hz : z ∈ sections) (hk : k ∈ knobs) (h : ∀ k' ∈ z.knobs, k.path ≠ k'.path) :
    Apart k.path [z.name] := by
  have hall : ∀ z ∈ sections, ∀ p ∈ knobs.map (·.path), p ∉ z.knobs.map (·.path) → Apart p [z.name] := by
    simp only [sections, List.forall_mem_cons]
    exact ⟨by decide +kernel, by decide +kernel, List.forall_mem_nil _⟩
  refine hall z hz _ (List.mem_map_of_mem hk) fun hm => ?_
  obtain ⟨k', hk', he⟩ := List.mem_map.1 hm
  exact h k' hk' he.symm

theorem list_apart {x : SettingSlot Config} (hx : x ∈ lists) (hk : k ∈ knobs) : Apart k.path [x.name] := by
  have hall : ∀ name ∈ lists.map Slot.name, ∀ p ∈ knobs.map (·.path), Apart p [name] := by decide +kernel
  exact hall _ (List.mem_map_of_mem hx) _ (List.mem_map_of_mem hk)

/-! ## what the environment gives -/

/-- The variable gives no setting: it has no path, or one that begins with no name of a setting or section. -/
def GivesNothing (name : String) : Prop :=
  ∀ first rest, settingPath? name = some (first :: rest) → first ∉ slots.map Slot.name

/-- The variables give knobs, each of them once and something that it can be, or else nothing; and of no section
of which they give a knob does the file have a list. -/
structure Sets (env : Environment) (settings : Setting) : Prop where
  each : ∀ p ∈ env, GivesNothing p.1 ∨
    ∃ k ∈ knobs, settingPath? p.1 = some k.path ∧ ∃ v, k.take ((Notation.read p.2).datum k.path) = .ok v
  once : env.Pairwise fun p q => ∀ k ∈ knobs, settingPath? p.1 = some k.path → settingPath? q.1 ≠ some k.path
  named : ∀ p ∈ env, ∀ k ∈ knobs, settingPath? p.1 = some k.path →
    ∀ items, settings.at? k.path.dropLast ≠ some (.list items)

namespace Sets

variable {p : String × String} {first : String} {rest : List String} {v : Setting}

theorem apart (h : Sets env settings) (hp : p ∈ env) (hfirst : first ∈ slots.map Slot.name)
    (hknobs : ∀ k ∈ knobs, settingPath? p.1 = some k.path → Apart k.path (first :: rest)) :
    ∀ other, settingPath? p.1 = some other → Apart other (first :: rest) := by
  intro other hother
  rcases h.each p hp with hnothing | ⟨k, hk, hpath, -⟩
  · obtain ⟨first', rest', rfl⟩ := List.exists_cons_of_ne_nil (settingPath?_ne_nil hother)
    have hne : first' ≠ first := fun he => hnothing first' rest' hother (he.symm ▸ hfirst)
    exact apart_of_ne hne rest' rest
  · cases hother.symm.trans hpath
    exact hknobs k hk hpath

/-- What is found under the path of a knob for which there is a variable. -/
theorem given (h : Sets env settings) (hk : k ∈ knobs) (hp : p ∈ env) (hpath : settingPath? p.1 = some k.path) :
    Open k.path env.settings ∧ env.settings.at? k.path = some (Notation.read p.2) := by
  obtain ⟨name, value⟩ := p
  obtain ⟨before, after, rfl⟩ := List.append_of_mem hp
  obtain ⟨-, hafter, hbefore⟩ := List.pairwise_append.1 h.once
  obtain ⟨first, rest, hcons, hfirst⟩ := path_eq_cons k hk
  -- No other variable gives the same knob, and other knobs are apart from it.
  have hclear : ∀ q ∈ before ++ after, ∀ other, settingPath? q.1 = some other → Apart other (first :: rest) := by
    intro q hq
    refine h.apart (by grind) hfirst fun k' hk' hq' => hcons ▸ knobs_apart hk' hk fun he => ?_
    rcases List.mem_append.1 hq with hq | hq
    · exact hbefore q hq _ List.mem_cons_self k' hk' hq' (he ▸ hpath)
    · exact (List.pairwise_cons.1 hafter).1 q hq k hk hpath (he ▸ hq')
  rw [hcons] at hpath ⊢
  exact settings_given (fun q hq => hclear q (List.mem_append_left _ hq))
    (fun q hq => hclear q (List.mem_append_right _ hq)) hpath

/-- Under the path of a knob for which there is no variable nothing is found. -/
theorem absent (h : Sets env settings) (hk : k ∈ knobs) (hnone : ∀ p ∈ env, settingPath? p.1 ≠ some k.path) :
    env.settings.at? k.path = none := by
  obtain ⟨first, rest, hcons, hfirst⟩ := path_eq_cons k hk
  rw [hcons]
  refine (settings_of_clear fun p hp => h.apart hp hfirst fun k' hk' hp' => ?_).2
  exact hcons ▸ knobs_apart hk' hk fun he => hnone p hp (he ▸ hp')

theorem exists_variable (h : Sets env settings) (hk : k ∈ knobs) (hv : env.settings.at? k.path = some v) :
    ∃ p ∈ env, settingPath? p.1 = some k.path ∧ v = Notation.read p.2 := by
  by_cases hnamed : ∃ p ∈ env, settingPath? p.1 = some k.path
  · obtain ⟨p, hp, hpath⟩ := hnamed
    exact ⟨p, hp, hpath, Option.some.inj (hv.symm.trans (h.given hk hp hpath).2)⟩
  · cases hv.symm.trans (h.absent hk fun p hp hpath => hnamed ⟨p, hp, hpath⟩)

/-- What is found under the path of a knob is something that it can be. -/
theorem exists_take (h : Sets env settings) (hk : k ∈ knobs) (hv : env.settings.at? k.path = some v) :
    ∃ a, k.take (v.datum k.path) = .ok a := by
  obtain ⟨p, hp, hpath, rfl⟩ := h.exists_variable hk hv
  rcases h.each p hp with hnothing | ⟨k', hk', hpath', htake⟩
  · obtain ⟨first, rest, hcons, hfirst⟩ := path_eq_cons k hk
    exact absurd hfirst (hnothing first rest (hcons ▸ hpath))
  · obtain rfl := eq_of_path hk hk' (Option.some.inj (hpath.symm.trans hpath'))
    exact htake

/-- A section that is found is a group with its entries in order, and the file has no list in its place. -/
theorem exists_group (h : Sets env settings) (hz : z ∈ sections) (hv : env.settings.at? [z.name] = some v) :
    (∃ entries, v = .group entries ∧ Sorted entries) ∧ ∀ items, settings.at? [z.name] ≠ some (.list items) := by
  by_cases hany : ∃ k ∈ z.knobs, ∃ p ∈ env, settingPath? p.1 = some k.path
  · obtain ⟨k, hk, p, hp, hpath⟩ := hany
    have hmem : k ∈ knobs := mem_knobs.2 (.inr ⟨z, hz, hk⟩)
    have hopen := (h.given hmem hp hpath).1
    have hnamed := h.named p hp k hmem hpath
    obtain ⟨x, i, -, rfl⟩ := mem_sectionKnobs.1 hk
    obtain ⟨high, hgroup, -, hinner⟩ := hopen.exists_group
    rw [hgroup, at?] at hv
    obtain ⟨w, hw, hvw⟩ := Option.bind_eq_some_iff.1 hv
    cases hvw
    obtain ⟨entries, rfl, hsorted, -⟩ := (hinner _ hw).exists_group
    exact ⟨⟨entries, rfl, hsorted⟩, hnamed⟩
  · have hclear : env.Clear [z.name] := fun p hp =>
      h.apart hp (List.mem_map_of_mem (Section.slot_mem hz)) fun k hk hpath =>
        section_apart hz hk fun k' hk' he => hany ⟨k', hk', p, hp, he ▸ hpath⟩
    cases hv.symm.trans (settings_of_clear hclear).2

end Sets

/-! ## the file -/

/-- The file gives the knob by its name, or by its place in a list that it has for the section. -/
def Gives (settings : Setting) (k : Knob) : Prop :=
  (settings.at? k.path).isSome ∨ ∃ items, settings.at? k.path.dropLast = some (.list items) ∧ k.place < items.length

/-- The section that a file and the defaults give. -/
def Section.under (z : Section) (entries : Entries) : Setting :=
  match entries.lookup z.name with
  | none => .group z.base
  | some v => (group z.base).overlay v

namespace Section

theorem lookup_under (hz : z ∈ sections) (htidy : Tidy entries) :
    (overDefaults entries).lookup z.name = some (z.under entries) := by
  rw [lookup_overlayEntries defaults_sorted htidy.sorted.nodup, under]
  cases entries.lookup z.name with
  | none => exact defaults_section hz
  | some v => exact congrArg some (laid_section hz v)

theorem under_ordered (htidy : Tidy entries) : Ordered (z.under entries) := by
  rw [under]
  split
  · exact z.base_ordered
  · rename_i v hv
    exact z.base_ordered.overlay (htidy.ordered _ (mem_of_lookup hv))

theorem under_eq_list {items : List Setting} (h : z.under entries = .list items) :
    (group entries).at? [z.name] = some (.list items) := by
  rw [under] at h
  split at h
  · cases h
  · rename_i v hv
    rcases overlay_cases (group z.base) v with ⟨low, upper, -, rfl⟩ | hupper
    · rw [overlay_group] at h
      cases h
    · rw [at?, hv, ← hupper, h]
      rfl

/-- A knob of a section that the file does not give is as it is by default. -/
theorem get_of_not_gives {x : SettingSlot z.Value} {i : Nat} {r : z.Value} (htidy : Tidy entries)
    (ht : takeRecord z.shape ((z.under entries).datum [z.name]) = .ok r) (hx : z.slots[i]? = some x)
    (hnot : ¬Gives (group entries) (z.knob x i)) : x.get r = x.get z.shape.blank := by
  simp only [Gives, not_or, not_exists, not_and, Option.not_isSome_iff_eq_none, Nat.not_lt] at hnot
  obtain ⟨hname, hplace⟩ := hnot
  rw [under] at ht
  split at ht
  · exact congrArg x.get (Except.ok.inj (ht.symm.trans z.take_base))
  · rename_i v hv
    have hat : ∀ path, (group entries).at? (z.name :: path) = v.at? path := fun path => by rw [at?, hv]; rfl
    exact z.flat.get_of_absent z.base_sorted z.take_base (htidy.ordered _ (mem_of_lookup hv)) ht hx
      ((hat [x.name]).symm.trans hname) fun items hitems => hplace items ((hat []).trans (congrArg some hitems))

end Section

/-! ## the layers -/

theorem Section.get_nothing (hz : z ∈ sections) : z.get {} = z.shape.blank := by
  simp only [sections, List.mem_cons, List.not_mem_nil, or_false] at hz
  rcases hz with rfl | rfl <;> rfl

/-- What of a configuration was taken from the file over the defaults. -/
theorem take_under (hz : z ∈ sections) (htidy : Tidy entries)
    (ht : shape.take ((group (overDefaults entries)).datum []) = .ok c) :
    takeRecord z.shape ((z.under entries).datum [z.name]) = .ok (z.get c) := by
  have hslot := slots_optional.holds_group (overDefaults_sorted entries) ht (Section.slot_mem hz)
  exact hslot.1 _ (Section.lookup_under hz htidy)

/-- What the file does not give is as it is by default. -/
theorem get_of_absent (htidy : Tidy entries) {x : SettingSlot Config} (hx : x ∈ slots)
    (ht : shape.take ((group (overDefaults entries)).datum []) = .ok c)
    (hnone : (group entries).at? [x.name] = none) : x.get c = x.get {} := by
  refine slots_optional.get_eq defaults_sorted (overDefaults_sorted entries) take_defaults ht hx ?_
  rw [lookup_overlayEntries defaults_sorted htidy.sorted.nodup, ← at?_name entries, hnone]

theorem get_of_not_gives (htidy : Tidy entries)
    (ht : shape.take ((group (overDefaults entries)).datum []) = .ok c) (hk : k ∈ knobs)
    (hnot : ¬Gives (group entries) k) : k.get c = k.get {} := by
  rcases mem_knobs.1 hk with ⟨x, hx, rfl⟩ | ⟨z, hz, hk⟩
  · refine get_of_absent htidy (single_mem hx) ht ?_
    exact Option.not_isSome_iff_eq_none.1 fun h => hnot (.inl h)
  · obtain ⟨x, i, hx, rfl⟩ := mem_sectionKnobs.1 hk
    have hblank := z.get_of_not_gives htidy (take_under hz htidy ht) hx hnot
    rwa [← Section.get_nothing hz] at hblank

/-- A section with what the environment gives of it. -/
theorem take_section (henv : Sets env (group entries)) (hhigh : env.settings = group high) (hz : z ∈ sections)
    (htidy : Tidy entries) {r : z.Value}
    (ht : takeRecord z.shape ((z.under entries).datum [z.name]) = .ok r) {v : Setting}
    (hv : high.lookup z.name = some v) :
    ∃ r', takeRecord z.shape (((z.under entries).overlay v).datum [z.name]) = .ok r' ∧ ∀ x ∈ z.slots,
      (∀ w, v.at? [x.name] = some w → x.take (w.datum [z.name, x.name]) = .ok (x.get r')) ∧
        (v.at? [x.name] = none → x.get r' = x.get r) := by
  have hat : ∀ path, env.settings.at? (z.name :: path) = v.at? path := fun path => by rw [hhigh, at?, hv]; rfl
  obtain ⟨⟨given, rfl, hsorted⟩, hlist⟩ := henv.exists_group hz (hat [])
  simp only [at?_name]
  refine z.flat.take_overlay (Section.under_ordered htidy) (fun items hitems => ?_) ht hsorted fun x hx w hw => ?_
  · exact hlist items (Section.under_eq_list hitems)
  · obtain ⟨i, hi⟩ := List.mem_iff_getElem?.1 hx
    exact henv.exists_take (Section.knob_mem hz hi) ((hat [x.name]).trans ((at?_name given x.name).trans hw))

theorem refuse_ne_ok {κ ι α : Type} (label : String) (d : Datum κ ι) (a : α) : Take.refuse label d ≠ .ok a := by
  cases d <;> exact fun h => by cases h

/-- No single setting is a group. -/
theorem single_take {x : SettingSlot Config} (hx : x ∈ singles) (path : List String) (entries : Entries) (a : x.Value) :
    x.take ((group entries).datum path) ≠ .ok a := by
  simp only [singles, List.mem_cons, List.not_mem_nil, or_false] at hx
  rcases hx with rfl | rfl
  · cases entries with
    | nil => exact fun h => by cases h
    | cons entry rest =>
      obtain ⟨name, v⟩ := entry
      simp only [datum, datumEntries, modeSlot, Mode.take]
      split
      · exact refuse_ne_ok _ _ _
      · exact fun h => by cases h
  · exact fun h => by cases h

/-- What the environment gives of a single setting is taken as it stands, whatever is below. -/
theorem take_single (henv : Sets env settings) (hhigh : env.settings = group high) {x : SettingSlot Config}
    (hx : x ∈ singles) {v : Setting} (hv : high.lookup x.name = some v) (low : Entries) :
    laid low x.name v = v ∧ ∃ a, x.take (v.datum [x.name]) = .ok a := by
  have hat : env.settings.at? [x.name] = some v := by rw [hhigh, at?_name, hv]
  obtain ⟨a, ha⟩ := henv.exists_take (Knob.single_mem hx) hat
  refine ⟨?_, a, ha⟩
  rw [laid]
  split
  · rfl
  · exact overlay_of_not_group (fun given he => single_take hx [x.name] given a (he ▸ ha)) _

/-- The environment gives no lists. -/
theorem lookup_list (henv : Sets env settings) (hhigh : env.settings = group high) {x : SettingSlot Config}
    (hx : x ∈ lists) : high.lookup x.name = none := by
  have hclear : env.Clear [x.name] := fun p hp =>
    henv.apart hp (List.mem_map_of_mem (list_mem hx)) fun k hk _ => list_apart hx hk
  rw [← at?_name, ← hhigh]
  exact (settings_of_clear hclear).2

/-- What is taken with what the environment gives, knob by knob. -/
theorem take_layers (henv : Sets env (group entries)) (hhigh : env.settings = group high) (hhighs : Sorted high)
    (htidy : Tidy entries)
    (ht : shape.take ((group (overDefaults entries)).datum []) = .ok c) :
    ∃ c', shape.take ((group (overlayEntries (overDefaults entries) high)).datum []) = .ok c' ∧
      (∀ k ∈ knobs, (∀ v, env.settings.at? k.path = some v → k.take (v.datum k.path) = .ok (k.get c')) ∧
        (env.settings.at? k.path = none → k.get c' = k.get c)) ∧
      ∀ x ∈ lists, x.get c' = x.get c := by
  have hsection : ∀ z ∈ sections, ∀ v,
      laid (overDefaults entries) z.name v = (z.under entries).overlay v := fun z hz v => by
    rw [laid, Section.lookup_under hz htidy]
  -- Every slot can take what the environment gives of it: a section is taken from layers itself.
  obtain ⟨c', hc', hslots⟩ := slots_optional.take_overlay (overDefaults_sorted entries) hhighs ht fun x hx v hv => by
    rcases mem_slots.1 hx with ⟨z, hz, rfl⟩ | hx
    · obtain ⟨r, hr, -⟩ := take_section henv hhigh hz htidy (take_under hz htidy ht) hv
      exact ⟨r, (hsection z hz v).symm ▸ hr⟩
    · rcases List.mem_append.1 hx with hx | hx
      · obtain ⟨hlaid, a, ha⟩ := take_single henv hhigh hx hv (overDefaults entries)
        exact ⟨a, hlaid.symm ▸ ha⟩
      · cases hv.symm.trans (lookup_list henv hhigh hx)
  refine ⟨c', hc', fun k hk => ?_, fun x hx => ?_⟩
  · rw [hhigh]
    rcases mem_knobs.1 hk with ⟨x, hx, rfl⟩ | ⟨z, hz, hk⟩
    · obtain ⟨hgiven, hkept⟩ := hslots x (single_mem hx)
      simp only [Knob.single, at?_name]
      refine ⟨fun v hv => ?_, hkept⟩
      have ha := hgiven v hv
      rwa [(take_single henv hhigh hx hv _).1] at ha
    · obtain ⟨x, i, hi, rfl⟩ := mem_sectionKnobs.1 hk
      obtain ⟨hgiven, hkept⟩ := hslots z.slot (Section.slot_mem hz)
      simp only [Section.knob, at?]
      cases hv : high.lookup z.name with
      | none => exact ⟨fun _ hw => (by cases hw), fun _ => congrArg x.get (hkept hv)⟩
      | some v =>
        obtain ⟨r, hr, hknobs⟩ := take_section henv hhigh hz htidy (take_under hz htidy ht) hv
        have hsame : r = z.get c' := Except.ok.inj (hr.symm.trans ((hsection z hz v) ▸ hgiven v hv))
        exact hsame ▸ hknobs x (List.mem_of_getElem? hi)
  · exact (hslots x (list_mem hx)).2 (lookup_list henv hhigh hx)

/-! ## loading -/

/-- How what is loaded with an environment (`c'`) differs from what is loaded without one (`c`). -/
structure Layered (settings : Setting) (env : Environment) (c c' : Config) : Prop where
  set : ∀ k ∈ knobs, ∀ p ∈ env, settingPath? p.1 = some k.path →
    k.take ((Notation.read p.2).datum k.path) = .ok (k.get c')
  kept : ∀ k ∈ knobs, (∀ p ∈ env, settingPath? p.1 ≠ some k.path) → k.get c' = k.get c
  byDefault : ∀ k ∈ knobs, (∀ p ∈ env, settingPath? p.1 ≠ some k.path) → ¬Gives settings k → k.get c' = k.get {}
  profiles : c'.profiles = c.profiles
  instances : c'.instances = c.instances
  noProfiles : settings.at? ["profiles"] = none → c'.profiles = []
  noInstances : settings.at? ["instances"] = none → c'.instances = []
  idle : (∀ p ∈ env, GivesNothing p.1) → c' = c

/-- **The environment counts over the file, and the file over the defaults, setting by setting.** If a file loads by
itself, it loads with any environment that sets knobs, in whatever sections, each of them once and to something that
it can be, provided that no section of theirs is a list in the file. The knobs that are set are then as they are set,
and all others, the profiles and the instances are as they are without the environment, and if the file does not
give them, as they are by default. Variables with no name of a setting or section in front change nothing. -/
theorem environment_over_file {file : Option String} (hfile : fileSettings file = .ok settings)
    (hload : load file [] = .ok c) (henv : Sets env settings) :
    (∀ k ∈ knobs, settingPath? (.ofList k.variable) = some k.path) ∧
      ∃ c', load file env = .ok c' ∧ Layered settings env c c' := by
  obtain ⟨entries, rfl, htidy⟩ := fileSettings_eq_ok hfile
  obtain ⟨high, hhigh, hhighs⟩ := env.settings_eq_group
  have hnothing : Environment.settings [] = group [] := rfl
  rw [load_eq hfile hnothing, ofSetting_eq_ok] at hload
  obtain ⟨c', hc', hknobs, hlists⟩ := take_layers henv hhigh hhighs htidy hload
  have hkept : ∀ k ∈ knobs, (∀ p ∈ env, settingPath? p.1 ≠ some k.path) → k.get c' = k.get c := fun k hk hnone =>
    (hknobs k hk).2 (henv.absent hk hnone)
  have hprofiles : c'.profiles = c.profiles := hlists profilesSlot (by simp [lists])
  have hinstances : c'.instances = c.instances := hlists instancesSlot (by simp [lists])
  have habsent : ∀ x ∈ lists, (group entries).at? [x.name] = none → x.get c' = x.get {} := fun x hx hnone =>
    (hlists x hx).trans (get_of_absent htidy (list_mem hx) hload hnone)
  refine ⟨settingPath?_variable, c', by rw [load_eq hfile hhigh, ofSetting_eq_ok, hc'], ?_⟩
  exact
    { set := fun k hk p hp hpath => (hknobs k hk).1 _ (henv.given hk hp hpath).2
      kept := hkept
      byDefault := fun k hk hnone hnot => (hkept k hk hnone).trans (get_of_not_gives htidy hload hk hnot)
      profiles := hprofiles
      instances := hinstances
      noProfiles := habsent profilesSlot (by simp [lists])
      noInstances := habsent instancesSlot (by simp [lists])
      idle := fun hidle => by
        refine eq_of_knobs (fun k hk => hkept k hk fun p hp hpath => ?_) hprofiles hinstances
        obtain ⟨first, rest, hcons, hfirst⟩ := path_eq_cons k hk
        exact hidle p hp first rest (hcons ▸ hpath) hfirst }

/-- Whether a list was found. -/
def isList : Option Setting → Bool
  | some (.list _) => true
  | _ => false

/-- A file with a part of a section, an environment with settings inside that section and outside it, and variables that
mean nothing. -/
theorem environment_over_partial_section :
    let file := some "mode = \"profile\"\n[feed]\nhost = \"10.0.0.1\"\nhistory = 5\n"
    let env : Environment :=
      [("PROXYHOST_FEED__HISTORY", "7"), ("HOME", "/root"), ("proxyhost_active_profile", "home"),
        ("PROXYHOST_CONFIG_FILE", "x.toml")]
    ∃ settings c, fileSettings file = .ok settings ∧ load file [] = .ok c ∧ Sets env settings ∧
      (∀ k ∈ knobs, settingPath? (.ofList k.variable) = some k.path) ∧
      ∃ c', load file env = .ok c' ∧ Layered settings env c c' := by
  intro file env
  have hread : (fileSettings file).toOption.isSome = true := by decide +kernel
  -- The paths are those of the sections that the environment gives something of.
  have hgroups : ∀ path ∈ [["feed"], []],
      isList ((fileSettings file).toOption.bind (·.at? path)) = false := by decide +kernel
  obtain ⟨settings, hfile⟩ : ∃ settings, fileSettings file = .ok settings := by
    cases hresult : fileSettings file with
    | ok settings => exact ⟨settings, rfl⟩
    | error e =>
      rw [hresult] at hread
      cases hread
  have hload : load file [] =
      .ok { mode := .profile, feed := { endpoint := { host := "10.0.0.1" }, history := 5 } } := by decide +kernel
  have hhistory : settingPath? "PROXYHOST_FEED__HISTORY" = some ["feed", "history"] := by decide +kernel
  have hseven : takeLong "usize" ((Notation.read "7").datum ["feed", "history"]) = .ok 7 := by decide +kernel
  have hactive : settingPath? "proxyhost_active_profile" = some ["active_profile"] := by decide +kernel
  have hhome : Take.orNull Take.text ((Notation.read "home").datum ["active_profile"]) = .ok (some "home") := by
    decide +kernel
  have hfileName : settingPath? "PROXYHOST_CONFIG_FILE" = some ["config_file"] := by decide +kernel
  have hother : settingPath? "HOME" = none := by decide +kernel
  have henv : Sets env settings :=
    { each := by
        simp only [env, List.forall_mem_cons]
        refine ⟨.inr ⟨Section.feed.knob FeedSettings.slots[6] 6, ?_, hhistory, (7 : UInt64), hseven⟩, .inl ?_,
          .inr ⟨.single activeProfileSlot, ?_, hactive, some "home", hhome⟩, .inl ?_, List.forall_mem_nil _⟩
        · exact Section.knob_mem (z := .feed) (by simp [sections]) rfl
        · exact fun first rest h => by cases hother.symm.trans h
        · exact Knob.single_mem (by simp [singles])
        · intro first rest h
          cases hfileName.symm.trans h
          decide
      once := by
        have hpaths : env.Pairwise fun p q => settingPath? p.1 = none ∨ settingPath? p.1 ≠ settingPath? q.1 := by
          decide +kernel
        refine hpaths.imp fun hne k _ hp hq => ?_
        rcases hne with hne | hne
        · cases hne.symm.trans hp
        · exact hne (hp.trans hq.symm)
      named := by
        intro p hp k _ hpath items hlist
        have hpaths : ∀ p ∈ env, ∀ path ∈ settingPath? p.1, path.dropLast ∈ [["feed"], []] := by decide +kernel
        have hgroup := hgroups _ (hpaths p hp k.path hpath)
        rw [hfile] at hgroup
        have hgroup : isList (settings.at? k.path.dropLast) = false := hgroup
        rw [hlist] at hgroup
        cases hgroup }
  exact ⟨settings, _, hfile, hload, henv, environment_over_file hfile hload henv⟩

/-- A list in the place of a section is replaced as a whole, so that the scheme is as it is by default, though the file
gives it and no variable does. And a point parts the names of a path as two underscores do. -/
theorem environment_replaces_list_section :
    (∃ c c', load (some "feed = [\"http\"]") [] = .ok c ∧ c.feed.endpoint.scheme = "http" ∧
      load (some "feed = [\"http\"]") [("PROXYHOST_FEED__PORT", "9000")] = .ok c' ∧
      c'.feed.port = some 9000 ∧ c'.feed.endpoint.scheme = "ws") ∧
    ∃ c c', load none [] = .ok c ∧ c.feed.history = 100 ∧
      load none [("PROXYHOST_FEED.HISTORY", "7")] = .ok c' ∧ c'.feed.history = 7 :=
  ⟨⟨{ feed := { endpoint := { scheme := "http" } } }, { feed := { port := some 9000 } }, by decide +kernel, rfl,
      by decide +kernel, rfl, rfl⟩,
    {}, { feed := { history := 7 } }, by decide +kernel, rfl, by decide +kernel, rfl⟩

end Config

end ProxyKeeper

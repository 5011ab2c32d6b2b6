/-
Settings laid over settings, by what is found under a path.

Where the entries of groups are in order, an entry of two groups laid over one
another is the upper one over the lower one, if there are both, and else the one
there is (`lookup_overlayEntries`). The settings of an environment are single
settings laid over one another. What is found in them under a path is the value
of the variable for the path, provided that no other variable gives the same
setting, or settings inside or around it (`settings_given`).
-/
import ProxyKeeper.Config.Environment

namespace ProxyKeeper.Config.Setting

/-! ## groups -/

/-- Entries in the order of their names, no name twice. -/
def Sorted (entries : Entries) : Prop := entries.Pairwise (·.1 < ·.1)

instance (entries : Entries) : Decidable (Sorted entries) :=
  inferInstanceAs (Decidable (entries.Pairwise (·.1 < ·.1)))

variable {entries low high : Entries} {name : String}

theorem Sorted.nodup (h : Sorted entries) : (entries.map (·.1)).Nodup := by
  refine List.pairwise_map.2 (h.imp fun {a b} hlt he => ?_)
  rw [he] at hlt
  exact String.lt_irrefl _ hlt

theorem lookup_cons (name : String) (v : Setting) (entries : Entries) (n : String) :
    ((name, v) :: entries).lookup n = if n = name then some v else entries.lookup n := by
  rw [List.lookup_cons]
  by_cases hn : n = name
  · rw [if_pos hn, beq_iff_eq.2 hn]
  · rw [if_neg hn, beq_eq_false_iff_ne.2 hn]

theorem lookup_eq_none (h : ∀ p ∈ entries, name < p.1) : entries.lookup name = none := by
  rw [List.lookup_eq_none_iff]
  intro p hp
  exact bne_iff_ne.2 fun he => String.lt_irrefl _ (he ▸ h p hp)

theorem forall_put {P : String × Setting → Prop} {f : Option Setting → Setting} (hname : ∀ old, P (name, f old))
    (h : ∀ p ∈ entries, P p) : ∀ p ∈ put name f entries, P p := by
  induction entries with
  | nil => exact List.forall_mem_singleton.2 (hname none)
  | cons entry rest ih =>
    obtain ⟨other, v⟩ := entry
    obtain ⟨hother, hrest⟩ := List.forall_mem_cons.1 h
    rw [put]
    split
    · exact List.forall_mem_cons.2 ⟨hname _, hrest⟩
    · split
      · exact List.forall_mem_cons.2 ⟨hname _, h⟩
      · exact List.forall_mem_cons.2 ⟨hother, ih hrest⟩

theorem Sorted.put (h : Sorted entries) (name : String) (f : Option Setting → Setting) :
    Sorted (put name f entries) := by
  induction entries with
  | nil => exact List.pairwise_singleton _ _
  | cons entry rest ih =>
    obtain ⟨other, v⟩ := entry
    obtain ⟨hfirst, hrest⟩ := List.pairwise_cons.1 h
    rw [Setting.put]
    split
    · rename_i he
      exact List.pairwise_cons.2 ⟨fun p hp => he ▸ hfirst p hp, hrest⟩
    · split
      · rename_i hlt
        refine List.pairwise_cons.2 ⟨List.forall_mem_cons.2 ⟨hlt, fun p hp => ?_⟩, h⟩
        exact String.lt_trans hlt (hfirst p hp)
      · rename_i hne hlt
        have hafter : other < name := Std.lt_of_le_of_ne (String.not_lt.1 hlt) hne
        exact List.pairwise_cons.2 ⟨forall_put (fun _ => hafter) hfirst, ih hrest⟩

theorem lookup_put (h : Sorted entries) (name : String) (f : Option Setting → Setting) (n : String) :
    (put name f entries).lookup n = if n = name then some (f (entries.lookup name)) else entries.lookup n := by
  induction entries with
  | nil => exact lookup_cons name (f none) [] n
  | cons entry rest ih =>
    obtain ⟨other, v⟩ := entry
    obtain ⟨hfirst, hrest⟩ := List.pairwise_cons.1 h
    rw [put]
    split
    · rename_i he
      subst he
      simp only [lookup_cons, if_true]
      split <;> rfl
    · split
      · rename_i hlt
        have hnone : ((other, v) :: rest).lookup name = none :=
          lookup_eq_none (List.forall_mem_cons.2 ⟨hlt, fun p hp => String.lt_trans hlt (hfirst p hp)⟩)
        rw [lookup_cons, hnone]
      · rename_i hne _
        simp only [lookup_cons, ih hrest, if_neg (Ne.symm hne)]
        by_cases hn : n = name
        · simp [hn, Ne.symm hne]
        · simp [hn]

/-- An upper setting as it counts where the lower group may have an entry. -/
def laid (low : Entries) (name : String) (v : Setting) : Setting :=
  match low.lookup name with
  | none => v
  | some old => overlay old v

theorem Sorted.overlayEntries (h : Sorted low) (high : Entries) : Sorted (overlayEntries low high) := by
  induction high generalizing low with
  | nil => exact h
  | cons entry rest ih => exact ih (h.put _ _)

/-- An entry of two groups over one another. -/
theorem lookup_overlayEntries (hlow : Sorted low) (hhigh : (high.map (·.1)).Nodup) (n : String) :
    (overlayEntries low high).lookup n =
      match high.lookup n with
      | none => low.lookup n
      | some v => some (laid low n v) := by
  induction high generalizing low with
  | nil => rfl
  | cons entry rest ih =>
    obtain ⟨name, v⟩ := entry
    obtain ⟨hname, hrest⟩ := List.nodup_cons.1 hhigh
    rw [overlayEntries, ih (hlow.put _ _) hrest, lookup_cons]
    simp only [laid, lookup_put hlow]
    by_cases hn : n = name
    · subst hn
      have hnone : rest.lookup n = none := by
        rw [List.lookup_eq_none_iff]
        exact fun p hp => bne_iff_ne.2 fun he => hname (List.mem_map.2 ⟨p, hp, he.symm⟩)
      cases low.lookup n <;> simp [hnone]
    · simp only [if_neg hn]

/-! ## paths -/

/-- What a path leads to. -/
def at? : List String → Setting → Option Setting
  | [], s => some s
  | name :: path, .group entries => (entries.lookup name).bind (at? path)
  | _ :: _, _ => none

theorem at?_name (entries : Entries) (name : String) : (group entries).at? [name] = entries.lookup name :=
  Option.bind_fun_some _

/-- Along the path there are groups with their entries in order, as far as there is anything. -/
def Open : List String → Setting → Prop
  | [], _ => True
  | name :: path, .group entries => Sorted entries ∧ ∀ v, entries.lookup name = some v → Open path v
  | _ :: _, _ => False

theorem Open.exists_group {path : List String} {s : Setting} (h : Open (name :: path) s) :
    ∃ entries, s = .group entries ∧ Sorted entries ∧ ∀ v, entries.lookup name = some v → Open path v := by
  cases s with
  | group entries => exact ⟨entries, rfl, h⟩
  | null | flag | number | text | letter | list => exact h.elim

theorem overlay_group (low high : Entries) : (group low).overlay (group high) = group (overlayEntries low high) := by
  rw [overlay]

theorem Open.overlay {path : List String} {s t : Setting} (hs : Open path s) (ht : Open path t) :
    Open path (s.overlay t) := by
  induction path generalizing s t with
  | nil => trivial
  | cons name path ih =>
    obtain ⟨low, rfl, hlow, hlows⟩ := hs.exists_group
    obtain ⟨high, rfl, hhigh, hhighs⟩ := ht.exists_group
    rw [overlay_group]
    refine ⟨hlow.overlayEntries high, fun v hv => ?_⟩
    rw [lookup_overlayEntries hlow hhigh.nodup] at hv
    cases hup : high.lookup name with
    | none => exact hlows v (by rwa [hup] at hv)
    | some up =>
      rw [hup] at hv
      obtain rfl := Option.some.inj hv
      rw [laid]
      cases hold : low.lookup name with
      | none => exact hhighs up hup
      | some old => exact ih (hlows old hold) (hhighs up hup)

/-- What a path leads to in the upper layer, over what it leads to in the lower one. -/
theorem at?_overlay {path : List String} {s t : Setting} (hs : Open path s) (ht : Open path t) :
    (s.overlay t).at? path =
      match t.at? path with
      | none => s.at? path
      | some v => some (((s.at? path).map (·.overlay v)).getD v) := by
  induction path generalizing s t with
  | nil => rfl
  | cons name path ih =>
    obtain ⟨low, rfl, hlow, hlows⟩ := hs.exists_group
    obtain ⟨high, rfl, hhigh, hhighs⟩ := ht.exists_group
    rw [overlay_group]
    simp only [at?, lookup_overlayEntries hlow hhigh.nodup]
    cases hup : high.lookup name with
    | none => rfl
    | some up =>
      simp only [laid, Option.bind_some]
      cases hold : low.lookup name with
      | none =>
        simp only [Option.bind_none, Option.map_none, Option.getD_none]
        cases up.at? path <;> rfl
      | some old =>
        simp only [Option.bind_some]
        exact ih (hlows old hold) (hhighs up hup)

/-! ## single settings -/

/-- Neither path leads through the other. -/
def Apart (p q : List String) : Prop := ¬p <+: q ∧ ¬q <+: p

instance (p q : List String) : Decidable (Apart p q) := inferInstanceAs (Decidable (¬p <+: q ∧ ¬q <+: p))

theorem apart_of_ne {first first' : String} (h : first ≠ first') (rest rest' : List String) :
    Apart (first :: rest) (first' :: rest') :=
  ⟨fun hp => h (List.cons_prefix_cons.1 hp).1, fun hp => h (List.cons_prefix_cons.1 hp).1.symm⟩

theorem open_nested {p q : List String} (h : p = q ∨ Apart p q) (v : Setting) : Open q (nested p v) := by
  induction p generalizing q with
  | nil =>
    rcases h with rfl | h
    · trivial
    · exact absurd (List.nil_prefix) h.1
  | cons name p ih =>
    cases q with
    | nil => trivial
    | cons name' q =>
      refine ⟨List.pairwise_singleton _ _, fun w hw => ?_⟩
      rw [lookup_cons] at hw
      split at hw
      · rename_i hn
        cases hw
        subst hn
        refine ih (h.imp List.tail_eq_of_cons_eq fun h => ?_)
        exact ⟨fun hp => h.1 ((List.prefix_cons_inj _).2 hp), fun hp => h.2 ((List.prefix_cons_inj _).2 hp)⟩
      · cases hw

theorem at?_nested (p : List String) (v : Setting) : (nested p v).at? p = some v := by
  induction p with
  | nil => rfl
  | cons name p ih => simpa [nested, at?] using ih

theorem at?_nested_of_apart {p q : List String} (h : Apart p q) (v : Setting) : (nested p v).at? q = none := by
  induction p generalizing q with
  | nil => exact absurd List.nil_prefix h.1
  | cons name p ih =>
    cases q with
    | nil => exact absurd List.nil_prefix h.2
    | cons name' q =>
      rw [nested, at?, lookup_cons]
      split
      · rename_i hn
        subst hn
        exact ih ⟨fun hp => h.1 ((List.prefix_cons_inj _).2 hp), fun hp => h.2 ((List.prefix_cons_inj _).2 hp)⟩
      · rfl

end ProxyKeeper.Config.Setting

/-! ## the environment -/

namespace ProxyKeeper.Environment

open Config Config.Setting

/-- The settings so far and those of one more variable. -/
def lay (done : Setting) (p : String × String) : Setting :=
  match settingPath? p.1 with
  | none => done
  | some path => done.overlay (.nested path (Notation.read p.2))

theorem settings_eq (env : Environment) : env.settings = env.foldl lay (.group []) := rfl

/-- The variables give no setting at the path, inside or around it. -/
def Clear (env : Environment) (path : List String) : Prop :=
  ∀ p ∈ env, ∀ other, settingPath? p.1 = some other → Apart other path

variable {env before after : Environment} {path : List String} {done : Setting} {name value : String}

theorem foldl_lay_of_clear (h : env.Clear path) (hdone : Open path done) :
    Open path (env.foldl lay done) ∧ (env.foldl lay done).at? path = done.at? path := by
  induction env generalizing done with
  | nil => exact ⟨hdone, rfl⟩
  | cons p env ih =>
    obtain ⟨hp, hrest⟩ := List.forall_mem_cons.1 h
    have hnext : Open path (lay done p) ∧ (lay done p).at? path = done.at? path := by
      rw [lay]
      cases hother : settingPath? p.1 with
      | none => exact ⟨hdone, rfl⟩
      | some other =>
        have hapart := hp other hother
        have hsingle := open_nested (.inr hapart) (Notation.read p.2)
        exact ⟨hdone.overlay hsingle, by simp only [at?_overlay hdone hsingle, at?_nested_of_apart hapart]⟩
    obtain ⟨hopen, hat⟩ := ih hrest hnext.1
    exact ⟨hopen, hat.trans hnext.2⟩

theorem settings_of_clear (h : env.Clear (name :: path)) :
    Open (name :: path) env.settings ∧ env.settings.at? (name :: path) = none :=
  foldl_lay_of_clear h ⟨List.Pairwise.nil, fun _ hv => by cases hv⟩

/-- What the one variable for a path gives. -/
theorem settings_given {var : String} (hbefore : before.Clear (name :: path)) (hafter : after.Clear (name :: path))
    (hgives : settingPath? var = some (name :: path)) :
    Open (name :: path) (settings (before ++ (var, value) :: after)) ∧
      (settings (before ++ (var, value) :: after)).at? (name :: path) = some (Notation.read value) := by
  obtain ⟨hopen, hat⟩ := settings_of_clear hbefore
  have hsingle := open_nested (.inl (rfl : name :: path = name :: path)) (Notation.read value)
  have hlay : lay (settings before) (var, value) =
      (settings before).overlay (.nested (name :: path) (Notation.read value)) := by rw [lay, hgives]
  have hgiven : (lay (settings before) (var, value)).at? (name :: path) = some (Notation.read value) := by
    simp only [hlay, at?_overlay hopen hsingle, at?_nested, hat, Option.map_none, Option.getD_none]
  obtain ⟨hlast, hkept⟩ := foldl_lay_of_clear hafter (hlay ▸ hopen.overlay hsingle)
  rw [settings_eq, List.foldl_append, List.foldl_cons, ← settings_eq]
  exact ⟨hlast, hkept.trans hgiven⟩

end ProxyKeeper.Environment

/-
What the store of profiles publishes is valid at all times.

A set is valid if its ports, its profiles and its selection are (`Valid`), and
that is what its check tells (`ProfileSet.validate_eq_ok_iff`). An operation
checks only the part of the set that it changes. That is enough: what it
checks holds exactly when the whole set that it asks for is valid
(`Operation.checks_iff`), since it was given a valid one. Two operations reach
into a part that they do not check: a profile that is put in the place of
another has its id, so that the selection still finds one (`valid_save`), and
one that is removed takes the selection of its id with it (`valid_delete`).
-/
import ProxyKeeper.Proofs.Lists
import ProxyKeeper.Proofs.Store.Operations

namespace ProxyKeeper

/-! ## valid profiles -/

theorem Check.url_eq_ok_iff {field value : String} :
    Check.url field value = .ok () ↔ Text.isAllBlank value = false ∧ ∃ url, Url.parse value = .ok url := by
  rw [Check.url]
  cases Text.isAllBlank value with
  | true => simp
  | false => cases Url.parse value <;> simp

namespace Profile

/-- The addresses of a profile. -/
def urls (p : Profile) : List String := p.mainServerUrl :: (p.aiServerUrl.toList ++ p.tailscaleServerUrl.toList)

/-- A profile has a name, and its addresses can be read. -/
structure Valid (p : Profile) : Prop where
  named : Text.isAllBlank p.name = false
  urls : ∀ value ∈ p.urls, Text.isAllBlank value = false ∧ ∃ url, Url.parse value = .ok url

theorem valid_iff {p : Profile} : p.Valid ↔ Text.isAllBlank p.name = false ∧
    ∀ value ∈ p.urls, Text.isAllBlank value = false ∧ ∃ url, Url.parse value = .ok url :=
  ⟨fun h => ⟨h.named, h.urls⟩, fun h => ⟨h.1, h.2⟩⟩

theorem validate_eq_ok_iff {p : Profile} : p.validate = .ok () ↔ p.Valid := by
  have hname : (!Text.isAllBlank p.name) = true ↔ Text.isAllBlank p.name = false := by simp
  rw [validate, Check.seq_eq_ok_iff, Check.seq_eq_ok_iff, Check.require_eq_ok_iff, Check.url_eq_ok_iff, hname,
    valid_iff, urls, List.forall_mem_cons]
  refine and_congr_right fun _ => and_congr_right fun _ => ?_
  cases p.aiServerUrl <;> cases p.tailscaleServerUrl <;>
    simp [Check.seq_eq_ok_iff, Check.url_eq_ok_iff, pure, Except.pure]

end Profile

/-! ## valid sets -/

namespace ProfileSet

variable {set : ProfileSet}

def ids (set : ProfileSet) : List String := set.profiles.map (·.id)

theorem isNone_profile?_iff {id : String} : (set.profile? id).isNone = true ↔ id ∉ set.ids := by
  rw [Option.isNone_iff_eq_none]
  exact find?_key_eq_none_iff Profile.id

/-- The ports may be used together. -/
structure ValidPorts (set : ProfileSet) : Prop where
  nonzero : set.httpProxyPort ≠ 0 ∧ set.socks5ProxyPort ≠ 0 ∧ set.apiServerPort ≠ 0
  distinct : set.httpProxyPort ≠ set.socks5ProxyPort ∧ set.httpProxyPort ≠ set.apiServerPort ∧
    set.socks5ProxyPort ≠ set.apiServerPort

structure Valid (set : ProfileSet) : Prop where
  ports : set.ValidPorts
  profiles : ∀ p ∈ set.profiles, p.Valid
  /-- A selection names one of the profiles. -/
  selected : ∀ id ∈ set.selected, id ∈ set.ids

theorem checkPorts_eq_ok_iff {ports : List (String × UInt16)} :
    checkPorts ports = .ok () ↔ (∀ p ∈ ports, p.2 ≠ 0) ∧ (ports.map (·.2)).Nodup := by
  induction ports with
  | nil => simp [checkPorts]
  | cons p rest ih =>
    obtain ⟨field, port⟩ := p
    rw [checkPorts, Check.seq_eq_ok_iff, Check.require_eq_ok_iff, List.map_cons, List.nodup_cons, List.forall_mem_cons,
      ← find?_key_eq_none_iff fun p : String × UInt16 => p.2]
    cases hfind : rest.find? (·.2 == port) with
    | none => simp [ih, and_assoc]
    | some other => simp [throw, throwThe, MonadExceptOf.throw]

theorem validatePorts_eq_ok_iff : set.validatePorts = .ok () ↔ set.ValidPorts := by
  rw [validatePorts, checkPorts_eq_ok_iff, ports, List.forall_mem_cons, List.forall_mem_cons, List.forall_mem_cons]
  simp only [List.map_cons, List.map_nil, List.nodup_cons, List.mem_cons, List.not_mem_nil, or_false, not_or]
  constructor
  · rintro ⟨⟨hhttp, hsocks5, hapi, -⟩, ⟨hh5, hha⟩, h5a, -⟩
    exact ⟨⟨hhttp, hsocks5, hapi⟩, hh5, hha, h5a⟩
  · rintro ⟨⟨hhttp, hsocks5, hapi⟩, hh5, hha, h5a⟩
    exact ⟨⟨hhttp, hsocks5, hapi, by simp⟩, ⟨hh5, hha⟩, h5a, by simp⟩

theorem forM_validate_eq_ok_iff {profiles : List Profile} :
    profiles.forM Profile.validate = .ok () ↔ ∀ p ∈ profiles, p.Valid := by
  induction profiles with
  | nil => simp [pure, Except.pure]
  | cons p rest ih =>
    have hcons : (p :: rest).forM Profile.validate = (do p.validate; rest.forM Profile.validate) := rfl
    rw [hcons, Check.seq_eq_ok_iff, Profile.validate_eq_ok_iff, ih, List.forall_mem_cons]

theorem validate_eq_ok_iff : set.validate = .ok () ↔ set.Valid := by
  have hvalid : set.Valid ↔ set.ValidPorts ∧ (∀ p ∈ set.profiles, p.Valid) ∧ ∀ id ∈ set.selected, id ∈ set.ids :=
    ⟨fun h => ⟨h.ports, h.profiles, h.selected⟩, fun h => ⟨h.1, h.2.1, h.2.2⟩⟩
  rw [validate, Check.seq_eq_ok_iff, Check.seq_eq_ok_iff, validatePorts_eq_ok_iff, forM_validate_eq_ok_iff, hvalid]
  refine and_congr_right fun _ => and_congr_right fun _ => ?_
  cases set.selected with
  | none => simp [pure, Except.pure]
  | some id =>
    simp only [isNone_profile?_iff, Option.mem_def, Option.some.injEq, forall_eq']
    by_cases hid : id ∈ set.ids <;> simp [hid, pure, Except.pure, throw, throwThe, MonadExceptOf.throw]

end ProfileSet

/-! ## operations -/

namespace ProfileStore

variable {s : ProfileStore} {β : Type}

/-- The set that an operation asks for. -/
def Operation.target (set : ProfileSet) : Operation → ProfileSet
  | .save profile => { set with profiles := put Profile.id profile set.profiles }
  | .delete id =>
    { set with
      profiles := set.profiles.eraseP (·.id == id)
      selected := if set.selected = some id then none else set.selected }
  | .select id => { set with selected := id }
  | .setProxyPorts http socks5 => { set with httpProxyPort := http, socks5ProxyPort := socks5 }
  | .setApiPort port => { set with apiServerPort := port }
  | .replace next => next

/-- What an operation needs to find. -/
def Operation.Finds (set : ProfileSet) : Operation → Prop
  | .delete id => id ∈ set.ids
  | .save _ | .select _ | .setProxyPorts .. | .setApiPort _ | .replace _ => True

/-- What an operation checks of the set that it asks for. -/
def Operation.Checks (set : ProfileSet) : Operation → Prop
  | .save profile => profile.Valid
  | .delete id => id ∈ set.ids
  | .select selected => ∀ id ∈ selected, id ∈ set.ids
  | .setProxyPorts http socks5 => (target set (.setProxyPorts http socks5)).ValidPorts
  | .setApiPort port => (target set (.setApiPort port)).ValidPorts
  | .replace next => next.Valid

/-! ### what is checked is enough -/

theorem valid_save {set : ProfileSet} (h : set.Valid) {profile : Profile} (hp : profile.Valid) :
    (Operation.target set (.save profile)).Valid where
  ports := ⟨h.ports.nonzero, h.ports.distinct⟩
  profiles p hmem := by
    obtain rfl | hmem := mem_of_mem_put hmem
    · exact hp
    · exact h.profiles p hmem
  selected id hid := by
    have hkept := h.selected id hid
    rw [ProfileSet.ids, Operation.target, keys_put]
    split
    · exact hkept
    · exact List.mem_append_left _ hkept

theorem valid_delete {set : ProfileSet} (h : set.Valid) (id : String) : (Operation.target set (.delete id)).Valid where
  ports := ⟨h.ports.nonzero, h.ports.distinct⟩
  profiles p hmem := h.profiles p (List.eraseP_subset hmem)
  selected other hother := by
    have hne : set.selected ≠ some id := by
      intro hsel
      simp [Operation.target, hsel] at hother
    have hsel : set.selected = some other := by simpa [Operation.target, hne] using hother
    -- Only a profile of the id that was removed is gone.
    obtain ⟨p, hp, hid⟩ := List.mem_map.1 (h.selected other hsel)
    refine List.mem_map.2 ⟨p, (List.mem_eraseP_of_neg ?_).2 hp, hid⟩
    simpa using fun heq : p.id = id => hne (by rw [hsel, ← hid, heq])

theorem Operation.checks_iff {set : ProfileSet} (h : set.Valid) (op : Operation) :
    op.Checks set ↔ (op.target set).Valid ∧ op.Finds set := by
  cases op with
  | save profile =>
    refine ⟨fun hp => ⟨valid_save h hp, trivial⟩, fun ⟨hvalid, _⟩ => hvalid.profiles profile ?_⟩
    exact mem_put_self Profile.id profile set.profiles
  | delete id => exact ⟨fun hid => ⟨valid_delete h id, hid⟩, fun ⟨_, hid⟩ => hid⟩
  | select selected =>
    have hports : (target set (.select selected)).ValidPorts := ⟨h.ports.nonzero, h.ports.distinct⟩
    exact ⟨fun hsel => ⟨⟨hports, h.profiles, hsel⟩, trivial⟩, fun ⟨hvalid, _⟩ => hvalid.selected⟩
  | setProxyPorts | setApiPort =>
    exact ⟨fun hports => ⟨⟨hports, h.profiles, h.selected⟩, trivial⟩, fun ⟨hvalid, _⟩ => hvalid.ports⟩
  | replace next => exact ⟨fun hvalid => ⟨hvalid, trivial⟩, fun ⟨hvalid, _⟩ => hvalid⟩

/-! ### what is done -/

theorem upsert_eq_put (profile : Profile) (profiles : List Profile) :
    upsert profile profiles = put Profile.id profile profiles := by
  induction profiles with
  | nil => rfl
  | cons p rest ih => rw [upsert, put, ih]

theorem edit_of_ok {f : ProfileSet → Except Failure (ProfileSet × β)} {set : ProfileSet} {b : β}
    (h : f s.snapshot = .ok (set, b)) : (s.edit f).1.snapshot = set ∧ (s.edit f).2 = .ok b := by
  have hupdate := Watch.update_of_ok (w := s.set) h
  exact ⟨by simp only [edit, hupdate]; rfl, by simp only [edit, hupdate]⟩

theorem edit_of_error {f : ProfileSet → Except Failure (ProfileSet × β)} {e : Failure}
    (h : f s.snapshot = .error e) : s.edit f = (s, .error e) := by
  have hupdate := Watch.update_of_error (w := s.set) h
  simp only [edit, hupdate]

theorem withPorts_of_valid {set : ProfileSet} (h : set.ValidPorts) : withPorts set = .ok (set, ()) := by
  rw [withPorts, ProfileSet.validatePorts_eq_ok_iff.2 h]
  rfl

theorem withPorts_of_not_valid {set : ProfileSet} (h : ¬set.ValidPorts) : ∃ e, withPorts set = .error e := by
  cases hports : set.validatePorts with
  | ok => exact absurd (ProfileSet.validatePorts_eq_ok_iff.1 hports) h
  | error e => exact ⟨e, by rw [withPorts, hports]; rfl⟩

theorem delete_of_some {id : String} {profile : Profile} (h : s.snapshot.profile? id = some profile) :
    (s.delete id).1.snapshot = Operation.target s.snapshot (.delete id) ∧ (s.delete id).2 = .ok profile :=
  edit_of_ok (by simp only [h]; rfl)

theorem delete_of_none {id : String} (h : s.snapshot.profile? id = none) :
    s.delete id = (s, .error (unknown id)) :=
  edit_of_error (by simp only [h])

theorem select_of_not_mem {id : String} (h : id ∉ s.snapshot.ids) :
    s.select (some id) = (s, .error (unknown id)) :=
  edit_of_error (if_pos (ProfileSet.isNone_profile?_iff.2 h))

theorem Operation.run_of_checks {op : Operation} (h : op.Checks s.snapshot) :
    (op.run s).1.snapshot = op.target s.snapshot ∧ (op.run s).2 = .ok () := by
  cases op with
  | save profile =>
    have hv : profile.validate = .ok () := Profile.validate_eq_ok_iff.2 h
    simp only [run, ProfileStore.save, hv]
    exact edit_of_ok (by rw [upsert_eq_put]; rfl)
  | delete id =>
    cases hfind : s.snapshot.profile? id with
    | none => exact absurd h (ProfileSet.isNone_profile?_iff.1 (by rw [hfind]; rfl))
    | some profile =>
      obtain ⟨hs, hok⟩ := delete_of_some hfind
      exact ⟨hs, congrArg Check.of hok⟩
  | select selected =>
    refine edit_of_ok ?_
    cases selected with
    | none => rfl
    | some id => exact if_neg fun hnone => ProfileSet.isNone_profile?_iff.1 hnone (h id rfl)
  | setProxyPorts http socks5 => exact edit_of_ok (withPorts_of_valid h)
  | setApiPort port => exact edit_of_ok (withPorts_of_valid h)
  | replace next =>
    have hv : next.validate = .ok () := ProfileSet.validate_eq_ok_iff.2 h
    simp only [run, ProfileStore.replace, hv]
    exact edit_of_ok rfl

theorem Operation.run_of_not_checks {op : Operation} (h : ¬op.Checks s.snapshot) : ∃ e, op.run s = (s, .error e) := by
  cases op with
  | save profile =>
    cases hv : profile.validate with
    | ok => exact absurd (Profile.validate_eq_ok_iff.1 hv) h
    | error e => exact ⟨e, by simp only [run, ProfileStore.save, hv]⟩
  | delete id =>
    have hnone : s.snapshot.profile? id = none := Option.isNone_iff_eq_none.1 (ProfileSet.isNone_profile?_iff.2 h)
    exact ⟨unknown id, by rw [run, delete_of_none hnone]; rfl⟩
  | select selected =>
    cases selected with
    | none => exact absurd (fun _ hid => by cases hid) h
    | some id =>
      have hid : id ∉ s.snapshot.ids := fun hid => h fun other hother => by cases hother; exact hid
      exact ⟨unknown id, select_of_not_mem hid⟩
  | setProxyPorts http socks5 =>
    obtain ⟨e, he⟩ := withPorts_of_not_valid h
    refine ⟨e, ?_⟩
    rw [run, ProfileStore.setProxyPorts]
    exact edit_of_error he
  | setApiPort port =>
    obtain ⟨e, he⟩ := withPorts_of_not_valid h
    refine ⟨e, ?_⟩
    rw [run, ProfileStore.setApiPort]
    exact edit_of_error he
  | replace next =>
    cases hv : next.validate with
    | ok => exact absurd (ProfileSet.validate_eq_ok_iff.1 hv) h
    | error e => exact ⟨e, by simp only [run, ProfileStore.replace, hv]⟩

/-! ## what is published -/

/-- All that an operation can do: what it asks for, or nothing. -/
theorem Operation.run_cases (op : Operation) (s : ProfileStore) :
    ((op.run s).2 = .ok () ∧ (op.run s).1.snapshot = op.target s.snapshot) ∨ ∃ e, op.run s = (s, .error e) := by
  by_cases hc : op.Checks s.snapshot
  · exact .inl (op.run_of_checks hc).symm
  · exact .inr (op.run_of_not_checks hc)

theorem Operation.ok_iff (op : Operation) (s : ProfileStore) : (op.run s).2 = .ok () ↔ op.Checks s.snapshot := by
  refine ⟨fun hok => Classical.byContradiction fun h => ?_, fun h => (op.run_of_checks h).2⟩
  obtain ⟨e, he⟩ := op.run_of_not_checks h
  cases hok.symm.trans (congrArg Prod.snd he)

theorem Operation.valid_run (h : s.snapshot.Valid) (op : Operation) : (op.run s).1.snapshot.Valid := by
  by_cases hc : op.Checks s.snapshot
  · rw [(op.run_of_checks hc).1]
    exact ((op.checks_iff h).1 hc).1
  · obtain ⟨e, he⟩ := op.run_of_not_checks hc
    rw [he]
    exact h

/-- What a store comes to. -/
def runs (ops : List Operation) (s : ProfileStore) : ProfileStore := ops.foldl (fun s op => (op.run s).1) s

theorem valid_runs (h : s.snapshot.Valid) (ops : List Operation) : (runs ops s).snapshot.Valid := by
  induction ops generalizing s with
  | nil => exact h
  | cons op rest ih => exact ih (op.valid_run h)

theorem valid_empty : empty.snapshot.Valid where
  ports := ⟨by decide, by decide⟩
  profiles _ h := by cases h
  selected _ h := by cases h

theorem ofSet_eq_ok_iff {set : ProfileSet} : ofSet set = .ok s ↔ set.Valid ∧ s = ⟨{ value := set }⟩ := by
  rw [← ProfileSet.validate_eq_ok_iff, ofSet]
  cases hv : set.validate <;> simp [Except.map, eq_comm]

theorem valid_ofSet {set : ProfileSet} (h : ofSet set = .ok s) : s.snapshot.Valid := by
  obtain ⟨hvalid, rfl⟩ := ofSet_eq_ok_iff.1 h
  exact hvalid

/-- **A store of profiles publishes no invalid set**, whatever is done to it from where it is the default or has its
first set: the set that is there passes its check, and that is to say that its ports, its profiles and its selection are
valid. An operation is accepted exactly when the set that it asks for is valid, and one that is not changes nothing. -/
theorem published_sets_are_valid (hs : s = empty ∨ ∃ set, ofSet set = .ok s) (ops : List Operation) :
    let s' := runs ops s
    s'.snapshot.validate = .ok () ∧ s'.snapshot.Valid ∧ ∀ op : Operation,
      ((op.run s').2 = .ok () ↔ (op.target s'.snapshot).Valid ∧ op.Finds s'.snapshot) ∧
        ((op.run s').2 = .ok () → (op.run s').1.snapshot = op.target s'.snapshot) ∧
          ∀ e, (op.run s').2 = .error e → (op.run s').1 = s' := by
  have hstart : s.snapshot.Valid := by
    obtain rfl | ⟨set, hset⟩ := hs
    · exact valid_empty
    · exact valid_ofSet hset
  intro s'
  have hvalid : s'.snapshot.Valid := valid_runs hstart ops
  refine ⟨ProfileSet.validate_eq_ok_iff.2 hvalid, hvalid, fun op => ⟨?_, fun hok => ?_, fun e he => ?_⟩⟩
  · exact (op.ok_iff s').trans (op.checks_iff hvalid)
  · exact (op.run_of_checks ((op.ok_iff s').1 hok)).1
  · by_cases hc : op.Checks s'.snapshot
    · cases he.symm.trans (op.run_of_checks hc).2
    · obtain ⟨e', he'⟩ := op.run_of_not_checks hc
      rw [he']

/-- A port that is in use is refused and another one is taken; the selected profile is removed, and the selection. -/
theorem published_sets_of_three_operations :
    let set : ProfileSet := { profiles := [.create "p" "home" "https://[::1]"], selected := some "p" }
    let s : ProfileStore := ⟨{ value := set }⟩
    let s' := runs [.setApiPort 8080, .setApiPort 9000, .delete "p"] s
    ofSet set = .ok s ∧ s'.snapshot = { apiServerPort := 9000 } ∧
      s'.snapshot.validate = .ok () ∧ s'.snapshot.Valid := by
  intro set s s'
  have hparse : ∃ url, Url.parse "https://[::1]" = .ok url := by
    have hscheme : Url.scheme? (Url.cleaned "https://[::1]".toList) = some ("https", "//[::1]".toList) := by
      decide +kernel
    have hkind : Url.schemeKind "https" = .special := by decide +kernel
    rw [Url.parse, hscheme]
    simp only [hkind]
    exact ⟨_, rfl⟩
  have hprofile : (Profile.create "p" "home" "https://[::1]").Valid := by
    refine ⟨by decide +kernel, fun value hvalue => ?_⟩
    rw [List.mem_singleton.1 hvalue]
    exact ⟨by decide +kernel, hparse⟩
  have hset : set.Valid :=
    ⟨⟨by decide, by decide⟩, fun p hp => List.mem_singleton.1 hp ▸ hprofile, fun id hid => by cases hid; decide⟩
  have hs : ofSet set = .ok s := by
    rw [ofSet, ProfileSet.validate_eq_ok_iff.2 hset]
    rfl
  have hpublished := published_sets_are_valid (.inr ⟨set, hs⟩) [.setApiPort 8080, .setApiPort 9000, .delete "p"]
  exact ⟨hs, by decide +kernel, hpublished.1, hpublished.2.1⟩

end ProfileStore

end ProxyKeeper

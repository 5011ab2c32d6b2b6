/-
The ids of the profiles in a store.

An operation that saves, removes or looks up a profile stops at the first one
of its id, so that it does what is meant only where no id stands twice. No
operation puts an id where there is one already (`nodup_target`): only a set
that comes from outside can, and its check lets it pass. So the ids stay
distinct (`nodup_runs`) as long as those of the sets do that the store is made
from and that are put in the place of another. Where they are not, a removed
profile can still be selected.
-/
import ProxyKeeper.Proofs.Store.Profiles

namespace ProxyKeeper.ProfileStore

variable {s : ProfileStore} {set : ProfileSet} {op : Operation} {id : String}

/-! ## what an operation does to the ids -/

theorem ids_save (set : ProfileSet) (profile : Profile) :
    (Operation.target set (.save profile)).ids =
      if profile.id ∈ set.ids then set.ids else set.ids ++ [profile.id] :=
  keys_put Profile.id profile set.profiles

theorem ids_delete (set : ProfileSet) (id : String) : (Operation.target set (.delete id)).ids = set.ids.erase id := by
  rw [ProfileSet.ids, ProfileSet.ids, List.erase_eq_eraseP', List.eraseP_map]
  rfl

/-- An operation with a whole set gives no id twice. -/
def Operation.Distinct : Operation → Prop
  | .replace next => next.ids.Nodup
  | .save _ | .delete _ | .select _ | .setProxyPorts .. | .setApiPort _ => True

/-- An operation that may put an id into the set. -/
def Operation.Brings (id : String) : Operation → Prop
  | .save profile => profile.id = id
  | .replace next => id ∈ next.ids
  | .delete _ | .select _ | .setProxyPorts .. | .setApiPort _ => False

theorem nodup_target (h : set.ids.Nodup) (hop : op.Distinct) : (op.target set).ids.Nodup := by
  cases op with
  | save profile => exact nodup_keys_put h profile
  | delete id =>
    rw [ids_delete]
    exact h.erase id
  | select | setProxyPorts | setApiPort => exact h
  | replace next => exact hop

theorem brings_of_mem_target (hid : id ∉ set.ids) (hmem : id ∈ (op.target set).ids) : op.Brings id := by
  cases op with
  | save profile =>
    rw [ids_save] at hmem
    split at hmem
    · exact absurd hmem hid
    · obtain hmem | hmem := List.mem_append.1 hmem
      · exact absurd hmem hid
      · exact (List.mem_singleton.1 hmem).symm
  | delete other =>
    rw [ids_delete] at hmem
    exact absurd (List.mem_of_mem_erase hmem) hid
  | select | setProxyPorts | setApiPort => exact absurd hmem hid
  | replace next => exact hmem

/-! ## runs -/

theorem nodup_run (h : s.snapshot.ids.Nodup) (op : Operation) (hop : op.Distinct) :
    (op.run s).1.snapshot.ids.Nodup := by
  obtain ⟨-, hs⟩ | ⟨e, he⟩ := op.run_cases s
  · rw [hs]
    exact nodup_target h hop
  · rwa [he]

theorem nodup_runs (h : s.snapshot.ids.Nodup) {ops : List Operation} (hops : ∀ op ∈ ops, op.Distinct) :
    (runs ops s).snapshot.ids.Nodup := by
  induction ops generalizing s with
  | nil => exact h
  | cons op rest ih =>
    exact ih (nodup_run h op (hops op List.mem_cons_self)) fun op hop => hops op (List.mem_cons_of_mem _ hop)

/-- During the operations one was accepted that brings the id. -/
def Brought (id : String) (ops : List Operation) (s : ProfileStore) : Prop :=
  ∃ before op after, ops = before ++ op :: after ∧ op.Brings id ∧ (op.run (runs before s)).2 = .ok ()

/-- An id comes only with an operation that brings it. -/
theorem brought_of_mem_runs (hid : id ∉ s.snapshot.ids) {ops : List Operation}
    (hmem : id ∈ (runs ops s).snapshot.ids) : Brought id ops s := by
  induction ops generalizing s with
  | nil => exact absurd hmem hid
  | cons op rest ih =>
    by_cases hnow : id ∈ (op.run s).1.snapshot.ids
    · obtain ⟨hok, hs⟩ | ⟨e, he⟩ := op.run_cases s
      · exact ⟨[], op, rest, rfl, brings_of_mem_target hid (hs ▸ hnow), hok⟩
      · rw [he] at hnow
        exact absurd hnow hid
    · obtain ⟨before, op', after, rfl, hbrings, hok⟩ := ih hnow hmem
      exact ⟨op :: before, op', after, rfl, hbrings, hok⟩

/-! ## identities -/

theorem select_ok_iff : (s.select (some id)).2 = .ok () ↔ id ∈ s.snapshot.ids := by
  rw [show s.select (some id) = Operation.run (.select (some id)) s from rfl, Operation.ok_iff]
  exact ⟨fun h => h id rfl, fun h other hother => Option.some.inj hother ▸ h⟩

/-- No profile has the id, and until an operation brings one none has, so that none can be selected. -/
def Gone (id : String) (s : ProfileStore) : Prop :=
  ∀ ops, Brought id ops s ∨
    id ∉ (runs ops s).snapshot.ids ∧
      (runs ops s).select (some id) = (runs ops s, .error (.notFound "profile" id))

theorem gone_of_not_mem (hid : id ∉ s.snapshot.ids) : Gone id s := by
  intro ops
  by_cases hmem : id ∈ (runs ops s).snapshot.ids
  · exact .inl (brought_of_mem_runs hid hmem)
  · exact .inr ⟨hmem, select_of_not_mem hmem⟩

/-- An id is that of one profile. -/
structure Identified (s : ProfileStore) : Prop where
  distinct : s.snapshot.ids.Nodup
  selectable : ∀ id, (s.select (some id)).2 = .ok () ↔ id ∈ s.snapshot.ids
  removed : ∀ id p, (s.delete id).2 = .ok p → p ∈ s.snapshot.profiles ∧ p.id = id ∧ Gone id (s.delete id).1
  saved : ∀ p, (s.save p).2 = .ok () → p ∈ (s.save p).1.snapshot.profiles ∧
    ∀ q ∈ (s.save p).1.snapshot.profiles, q.id = p.id → q = p

theorem identified_of_nodup (h : s.snapshot.ids.Nodup) : s.Identified where
  distinct := h
  selectable id := select_ok_iff
  removed id p hp := by
    cases hfind : s.snapshot.profile? id with
    | none => rw [delete_of_none hfind] at hp; cases hp
    | some found =>
      obtain ⟨hs, hok⟩ := delete_of_some hfind
      cases hp.symm.trans hok
      obtain ⟨hmem, hid⟩ := (find?_key_eq_some_iff Profile.id h).1 hfind
      refine ⟨hmem, hid, gone_of_not_mem fun hleft => ?_⟩
      rw [hs, ids_delete, h.mem_erase_iff] at hleft
      exact hleft.1 rfl
  saved p hp := by
    obtain ⟨-, hs⟩ | ⟨e, he⟩ := Operation.run_cases (.save p) s
    · have hprofiles : (s.save p).1.snapshot.profiles = put Profile.id p s.snapshot.profiles :=
        congrArg ProfileSet.profiles hs
      have hmem : p ∈ (s.save p).1.snapshot.profiles := hprofiles ▸ mem_put_self Profile.id p s.snapshot.profiles
      have hn : (s.save p).1.snapshot.ids.Nodup := nodup_run h (.save p) trivial
      have hfound := (find?_key_eq_some_iff Profile.id hn).2 ⟨hmem, rfl⟩
      refine ⟨hmem, fun q hq hid => Option.some.inj (Eq.trans ?_ hfound)⟩
      exact ((find?_key_eq_some_iff Profile.id hn).2 ⟨hq, hid⟩).symm
    · cases hp.symm.trans (congrArg Prod.snd he)

/-- **Profiles are known by their ids**: no id stands twice, whatever is done to a store from where it is the default or
has a first set without repeated ids, as long as no set with repeated ids is put in its place. So what is removed is gone
until it is brought back, and what is saved is the one profile of its id. -/
theorem profile_ids_stay_distinct (hs : s = empty ∨ ∃ set, ofSet set = .ok s ∧ set.ids.Nodup) {ops : List Operation}
    (hops : ∀ op ∈ ops, op.Distinct) : (runs ops s).Identified := by
  have hstart : s.snapshot.ids.Nodup := by
    obtain rfl | ⟨set, hset, hn⟩ := hs
    · exact List.nodup_nil
    · obtain ⟨-, rfl⟩ := ofSet_eq_ok_iff.1 hset
      exact hn
  exact identified_of_nodup (nodup_runs hstart hops)

/-- The selected profile is removed, and comes back with another set in which no id stands twice. -/
theorem distinct_ids_of_three_operations :
    let profile (id name : String) : Profile := .create id name "relay://home"
    let s : ProfileStore := ⟨{ value := { profiles := [profile "p" "one", profile "q" "two"], selected := some "p" } }⟩
    let next : ProfileSet := { profiles := [profile "p" "one"] }
    let ops : List Operation := [.delete "p", .replace next, .save (profile "p" "three")]
    ofSet s.snapshot = .ok s ∧ s.snapshot.ids.Nodup ∧ (∀ op ∈ ops, op.Distinct) ∧
      (runs ops s).snapshot = { profiles := [profile "p" "three"] } ∧ (runs ops s).Identified := by
  intro profile s next ops
  have hvalid : s.snapshot.Valid := ProfileSet.validate_eq_ok_iff.1 (by decide +kernel)
  have hs : ofSet s.snapshot = .ok s := ofSet_eq_ok_iff.2 ⟨hvalid, rfl⟩
  have hn : s.snapshot.ids.Nodup := by decide +kernel
  have hops : ∀ op ∈ ops, op.Distinct := by
    simp only [ops, next, List.forall_mem_cons]
    exact ⟨trivial, List.pairwise_singleton _ _, trivial, by simp⟩
  exact ⟨hs, hn, hops, by decide +kernel, profile_ids_stay_distinct (.inr ⟨_, hs, hn⟩) hops⟩

/-- Two profiles pass the check under one id. One of them is removed, and the id is still there and can be selected; a
third one is saved under it, and the second one keeps it too. -/
theorem removed_profile_selected :
    let profile (name : String) : Profile := .create "p" name "relay://home"
    let s : ProfileStore := ⟨{ value := { profiles := [profile "one", profile "two"] } }⟩
    ofSet s.snapshot = .ok s ∧ ¬s.snapshot.ids.Nodup ∧
      (s.delete "p").2 = .ok (profile "one") ∧ (s.delete "p").1.snapshot.profiles = [profile "two"] ∧
      ((s.delete "p").1.select (some "p")).2 = .ok () ∧
      (s.save (profile "three")).2 = .ok () ∧
      (s.save (profile "three")).1.snapshot.profiles = [profile "three", profile "two"] := by
  intro profile s
  have hvalid : s.snapshot.Valid := ProfileSet.validate_eq_ok_iff.1 (by decide +kernel)
  have hfind : s.snapshot.profile? "p" = some (profile "one") := by decide +kernel
  refine ⟨ofSet_eq_ok_iff.2 ⟨hvalid, rfl⟩, by decide +kernel, (delete_of_some hfind).2, by decide +kernel, ?_, ?_⟩
  · exact select_ok_iff.2 (by decide +kernel)
  · exact ⟨by decide +kernel, by decide +kernel⟩

end ProxyKeeper.ProfileStore

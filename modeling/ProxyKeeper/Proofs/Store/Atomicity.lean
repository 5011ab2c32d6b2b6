/-
Writes to a store, as those who follow it see them.

An edit may write before it checks, or clear the selection before it removes
a profile. None of this is ever seen: the edit works on a copy that is
published as a whole or not at all (`Watch.update_cases`). So an operation
that fails leaves no trace, and one that succeeds is one publication of what
it asks for (`Atomic`). A follower who looks after every operation is told of
the successful ones, each once, in their order (`told_eq_accepted`).
-/
import ProxyKeeper.Proofs.Store.Instances
import ProxyKeeper.Proofs.Store.Profiles

namespace ProxyKeeper

variable {O S β : Type}

/-! ## one operation -/

/-- What an operation that asks for a target may have done to a watch. -/
structure Atomic (w : Watch S) (target : S) (r : Watch S × Check) : Prop where
  /-- After a failure the snapshot is what it was, and no follower is told of anything. -/
  failed : ∀ f, r.2 = .error f → r.1.value = w.value ∧ ∀ o, r.1.notice o = w.notice o
  /-- After a success a follower who was up to date is told of a change and finds what was asked for. -/
  succeeded : r.2 = .ok () → r.1.value = target ∧ ∀ o, w.notice o ≠ .changed → r.1.notice o = .changed
  /-- Who has looked is not told again. -/
  once : r.1.notice r.1.subscribe ≠ .changed

theorem Watch.notice_subscribe_ne_changed (w : Watch S) : w.notice w.subscribe ≠ .changed := by
  intro h
  exact Watch.notice_eq_changed_iff.1 h rfl

theorem Edited.atomic {w : Watch S} {target : S} {r : Watch S × Check} (h : Edited w r)
    (hr : r.2 = .ok () → r.1.value = target) : Atomic w target r where
  failed f hf := by
    obtain ⟨v, b, rfl⟩ | ⟨e, rfl⟩ := h
    · cases hf
    · exact ⟨rfl, fun o => rfl⟩
  succeeded hok := by
    refine ⟨hr hok, fun o ho => ?_⟩
    obtain ⟨v, b, rfl⟩ | ⟨e, rfl⟩ := h
    · have hseen : w.version = o.seen := Decidable.byContradiction fun hne => ho (Watch.notice_eq_changed_iff.2 hne)
      refine Watch.notice_eq_changed_iff.2 ?_
      rw [Watch.version_publish, ← hseen]
      omega
    · cases hok
  once := r.1.notice_subscribe_ne_changed

/-! ## many operations -/

namespace StoreApi

variable (api : StoreApi O S) (target : S → O → S)

/-- What a store comes to. -/
def after (ops : List O) (w : Watch S) : Watch S := ops.foldl (fun w op => (api.run op w).1) w

/-- What a follower finds who looks after every operation and is told of a change. -/
def told : List O → Watch S → List S
  | [], _ => []
  | op :: rest, w =>
    let next := (api.run op w).1
    (if next.notice w.subscribe = .changed then [next.value] else []) ++ told rest next

/-- What the successful operations ask for. -/
def accepted : List O → Watch S → List S
  | [], _ => []
  | op :: rest, w =>
    let (next, result) := api.run op w
    (if result = .ok () then [target w.value op] else []) ++ accepted rest next

/-- Every operation writes what it asks for, or nothing. -/
structure WritesWhole : Prop where
  atomic : ∀ op w, Atomic w (target w.value op) (api.run op w)
  told : ∀ ops w, api.told ops w = api.accepted target ops w
  /-- The last thing that a follower was told is what there is. -/
  last : ∀ ops w, (api.after ops w).value = (api.told ops w).getLastD w.value

variable {api target}

theorem told_cons (h : ∀ op w, Atomic w (target w.value op) (api.run op w)) (op : O) (rest : List O) (w : Watch S) :
    ((api.run op w).2 = .ok () ∧ (api.run op w).1.value = target w.value op ∧
      api.told (op :: rest) w = target w.value op :: api.told rest (api.run op w).1) ∨
      (∃ f, (api.run op w).2 = .error f) ∧ (api.run op w).1.value = w.value ∧
        api.told (op :: rest) w = api.told rest (api.run op w).1 := by
  have hatomic := h op w
  rw [told]
  cases hresult : (api.run op w).2 with
  | ok =>
    obtain ⟨hvalue, hchanged⟩ := hatomic.succeeded hresult
    have hnotice := hchanged w.subscribe w.notice_subscribe_ne_changed
    exact .inl ⟨rfl, hvalue, by simp [hnotice, hvalue]⟩
  | error f =>
    obtain ⟨hvalue, hsame⟩ := hatomic.failed f hresult
    have hnotice : (api.run op w).1.notice w.subscribe ≠ .changed := hsame w.subscribe ▸ w.notice_subscribe_ne_changed
    exact .inr ⟨⟨f, rfl⟩, hvalue, by simp [hnotice]⟩

theorem told_eq_accepted (h : ∀ op w, Atomic w (target w.value op) (api.run op w)) (ops : List O) (w : Watch S) :
    api.told ops w = api.accepted target ops w := by
  induction ops generalizing w with
  | nil => rfl
  | cons op rest ih =>
    rw [accepted]
    obtain ⟨hok, -, htold⟩ | ⟨⟨f, hf⟩, -, htold⟩ := told_cons h op rest w
    · simp [htold, hok, ih]
    · simp [htold, hf, ih]

theorem value_after (h : ∀ op w, Atomic w (target w.value op) (api.run op w)) (ops : List O) (w : Watch S) :
    (api.after ops w).value = (api.told ops w).getLastD w.value := by
  induction ops generalizing w with
  | nil => rfl
  | cons op rest ih =>
    have hrest : (api.after (op :: rest) w).value = (api.told rest (api.run op w).1).getLastD (api.run op w).1.value :=
      ih _
    obtain ⟨-, hvalue, htold⟩ | ⟨-, hvalue, htold⟩ := told_cons h op rest w
    · rw [hrest, htold, hvalue, List.getLastD_cons]
    · rw [hrest, htold, hvalue]

theorem writesWhole (h : ∀ op w, (api.run op w).2 = .ok () → (api.run op w).1.value = target w.value op) :
    api.WritesWhole target := by
  have hatomic : ∀ op w, Atomic w (target w.value op) (api.run op w) := fun op w => (api.edited op w).atomic (h op w)
  exact ⟨hatomic, told_eq_accepted hatomic, value_after hatomic⟩

end StoreApi

/-! ## instances -/

namespace InstanceStore

/-- The records that an operation asks for. -/
def Operation.target (records : List Instance) : Operation → List Instance
  | .save record => put Instance.id record records
  | .delete id => records.eraseP (·.id == id)
  | .setEnabled id enabled => records.modify (records.findIdx (·.id == id)) fun r => { r with enabled }
  | .replaceAll next => next

theorem withEnabled_eq_modify (id : String) (enabled : Bool) (records : List Instance) :
    withEnabled id enabled records = records.modify (records.findIdx (·.id == id)) fun r => { r with enabled } := by
  induction records with
  | nil => rfl
  | cons r rest ih =>
    rw [withEnabled, List.findIdx_cons]
    by_cases hr : r.id = id
    · rw [if_pos hr, beq_iff_eq.2 hr, cond_true, List.modify_zero_cons]
    · rw [if_neg hr, beq_eq_false_iff_ne.2 hr, cond_false, List.modify_succ_cons, ih]

/-- Where no id stands twice, every record of the id is asked for with the flag, and every other one as it is. -/
theorem Operation.target_setEnabled (id : String) (enabled : Bool) {records : List Instance}
    (hn : (records.map Instance.id).Nodup) :
    target records (.setEnabled id enabled) = records.map fun r => if r.id = id then { r with enabled } else r :=
  (withEnabled_eq_modify id enabled records).symm.trans (withEnabled_eq_map enabled hn)

theorem Operation.snapshot_run {op : Operation} {s : InstanceStore} (h : (op.run s).2 = .ok ()) :
    (op.run s).1.snapshot = op.target s.snapshot := by
  cases op with
  | save record =>
    cases hv : record.validate with
    | error e => rw [run, save_of_invalid hv] at h; cases h
    | ok => exact (save_of_valid hv s).1
  | delete id =>
    cases hget : s.get? id with
    | none => rw [run, delete_of_none hget] at h; cases h
    | some record => exact (delete_of_some hget).1
  | setEnabled id enabled =>
    by_cases hid : id ∈ s.ids
    · exact (setEnabled_of_mem hid enabled).1.trans (withEnabled_eq_modify id enabled s.snapshot)
    · rw [run, setEnabled_of_not_mem hid] at h
      cases h
  | replaceAll next =>
    cases hc : checkAll next with
    | error e => rw [run, replaceAll_of_error hc] at h; cases h
    | ok => exact (replaceAll_of_ok hc s).1

end InstanceStore

/-! ## profiles -/

namespace ProfileStore

variable {s : ProfileStore}

theorem Operation.snapshot_run {op : Operation} (h : (op.run s).2 = .ok ()) :
    (op.run s).1.snapshot = op.target s.snapshot := (op.run_of_checks ((op.ok_iff s).1 h)).1

/-- Ports that may not be used together are refused as a whole. -/
theorem setProxyPorts_of_clash {http socks5 : UInt16}
    (h : http = 0 ∨ socks5 = 0 ∨ http = socks5 ∨ http = s.snapshot.apiServerPort ∨ socks5 = s.snapshot.apiServerPort) :
    ∃ f, s.setProxyPorts http socks5 = (s, .error f) := by
  have hports : ¬(Operation.setProxyPorts http socks5).Checks s.snapshot := by
    rintro ⟨⟨hhttp, hsocks5, -⟩, hh5, hha, h5a⟩
    obtain h | h | h | h | h := h
    · exact hhttp h
    · exact hsocks5 h
    · exact hh5 h
    · exact hha h
    · exact h5a h
  exact Operation.run_of_not_checks hports

theorem setApiPort_of_clash {port : UInt16}
    (h : port = 0 ∨ port = s.snapshot.httpProxyPort ∨ port = s.snapshot.socks5ProxyPort) :
    ∃ f, s.setApiPort port = (s, .error f) := by
  have hports : ¬(Operation.setApiPort port).Checks s.snapshot := by
    rintro ⟨⟨-, -, hport⟩, -, hha, h5a⟩
    obtain h | h | h := h
    · exact hport h
    · exact hha h.symm
    · exact h5a h.symm
  exact Operation.run_of_not_checks hports

/-- Whoever misses the selection misses the profile too. -/
theorem removed_of_selection_cleared {id : String} (h : (s.delete id).1.snapshot.selected ≠ s.snapshot.selected) :
    ∃ p before after, (s.delete id).2 = .ok p ∧ p.id = id ∧ s.snapshot.profiles = before ++ p :: after ∧
      (s.delete id).1.snapshot.profiles = before ++ after := by
  cases hfind : s.snapshot.profile? id with
  | none =>
    rw [delete_of_none hfind] at h
    exact absurd rfl h
  | some p =>
    obtain ⟨hs, hok⟩ := delete_of_some hfind
    obtain ⟨hid, before, after, hprofiles, hbefore⟩ := List.find?_eq_some_iff_append.1 hfind
    refine ⟨p, before, after, hok, by simpa using hid, hprofiles, ?_⟩
    have herase : (s.delete id).1.snapshot.profiles = s.snapshot.profiles.eraseP (·.id == id) :=
      congrArg ProfileSet.profiles hs
    rw [herase, hprofiles, List.eraseP_append_right _ (by simpa using hbefore), List.eraseP_cons, hid, cond_true]

end ProfileStore

/-- **Every write to a store is whole**: an operation that fails has done nothing, and nobody is told of it; one that
succeeds has done all that it asks for, and everybody who follows the store is told of it once. To enable an instance
asks for its record with the flag and for the others as they are. Ports that clash leave the ports as they are, and a
removal clears the selection only with the profile. -/
theorem store_writes_are_whole :
    InstanceStore.api.WritesWhole InstanceStore.Operation.target ∧
      (∀ s : InstanceStore, s.Sound → ∀ id enabled,
        InstanceStore.Operation.target s.snapshot (.setEnabled id enabled) =
          s.snapshot.map fun r => if r.id = id then { r with enabled } else r) ∧
      ProfileStore.api.WritesWhole ProfileStore.Operation.target ∧
      ∀ s : ProfileStore,
        (∀ http socks5, http = 0 ∨ socks5 = 0 ∨ http = socks5 ∨ http = s.snapshot.apiServerPort ∨
            socks5 = s.snapshot.apiServerPort → ∃ f, s.setProxyPorts http socks5 = (s, .error f)) ∧
          (∀ port, port = 0 ∨ port = s.snapshot.httpProxyPort ∨ port = s.snapshot.socks5ProxyPort →
            ∃ f, s.setApiPort port = (s, .error f)) ∧
          ∀ id, (s.delete id).1.snapshot.selected ≠ s.snapshot.selected →
            ∃ p before after, (s.delete id).2 = .ok p ∧ p.id = id ∧ s.snapshot.profiles = before ++ p :: after ∧
              (s.delete id).1.snapshot.profiles = before ++ after := by
  refine ⟨StoreApi.writesWhole fun op w hok => ?_, fun s hs id enabled => ?_, StoreApi.writesWhole fun op w hok => ?_,
    fun s => ⟨?_, ?_, ?_⟩⟩
  · exact InstanceStore.Operation.snapshot_run hok
  · exact InstanceStore.Operation.target_setEnabled id enabled hs.distinct
  · exact ProfileStore.Operation.snapshot_run hok
  · exact fun http socks5 => ProfileStore.setProxyPorts_of_clash
  · exact fun port => ProfileStore.setApiPort_of_clash
  · exact fun id => ProfileStore.removed_of_selection_cleared

end ProxyKeeper

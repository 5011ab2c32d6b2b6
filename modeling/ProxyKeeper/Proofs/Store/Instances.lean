/-
The store of instances as a map with an order: the ids in the order in which
they were added, each with its record.

A store is sound if its records are valid and no id stands twice (`Sound`).
Every operation keeps that (`Sound.step`), though only two of them check
anything: a record is put in the place of another under the id that was there,
or at the end under an id that was not. In a sound store the first record of
an id is the only one, so that an operation which stops at the first is one on
the whole map (`Sound.ordered`).
-/
import ProxyKeeper.Proofs.Lists
import ProxyKeeper.Proofs.Store.Operations

namespace ProxyKeeper.InstanceStore

variable {s : InstanceStore} {id : String} {record : Instance}

/-! ## what the operations do -/

/-- The ids of the records, in their order. -/
def ids (s : InstanceStore) : List String := s.snapshot.map (·.id)

theorem get?_eq_none_iff : s.get? id = none ↔ id ∉ s.ids := find?_key_eq_none_iff Instance.id

theorem upsert_eq_put (record : Instance) (records : List Instance) :
    upsert record records = put Instance.id record records := by
  induction records with
  | nil => rfl
  | cons r rest ih => rw [upsert, put, ih]

theorem withEnabled_eq_map (enabled : Bool) {records : List Instance} (hn : (records.map Instance.id).Nodup) :
    withEnabled id enabled records = records.map fun r => if r.id = id then { r with enabled } else r := by
  induction records with
  | nil => rfl
  | cons r rest ih =>
    rw [List.map_cons, List.nodup_cons] at hn
    rw [withEnabled, List.map_cons]
    by_cases hr : r.id = id
    · rw [if_pos hr, if_pos hr, map_key_of_not_mem Instance.id (hr ▸ hn.1)]
    · rw [if_neg hr, if_neg hr, ih hn.2]

theorem checkAll_eq_ok_iff {records : List Instance} :
    checkAll records = .ok () ↔ (∀ r ∈ records, r.validate = .ok ()) ∧ (records.map Instance.id).Nodup := by
  induction records with
  | nil => simp [checkAll]
  | cons r rest ih =>
    have hany : (!rest.any (·.id == r.id)) = true ↔ r.id ∉ rest.map Instance.id := by simp
    rw [checkAll, Check.seq_eq_ok_iff, Check.seq_eq_ok_iff, Check.require_eq_ok_iff, hany, ih, List.forall_mem_cons,
      List.map_cons, List.nodup_cons]
    exact ⟨fun ⟨hr, hnew, hall, hn⟩ => ⟨⟨hr, hall⟩, hnew, hn⟩, fun ⟨⟨hr, hall⟩, hnew, hn⟩ => ⟨hr, hnew, hall, hn⟩⟩

theorem edit_of_ok {β : Type} {f : List Instance → Except Failure (List Instance × β)} {records : List Instance} {b : β}
    (h : f s.snapshot = .ok (records, b)) : (s.edit f).1.snapshot = records ∧ (s.edit f).2 = .ok b := by
  have hupdate := Watch.update_of_ok (w := s.records) h
  exact ⟨by simp only [edit, hupdate]; rfl, by simp only [edit, hupdate]⟩

theorem edit_of_error {β : Type} {f : List Instance → Except Failure (List Instance × β)} {e : Failure}
    (h : f s.snapshot = .error e) : s.edit f = (s, .error e) := by
  have hupdate := Watch.update_of_error (w := s.records) h
  simp only [edit, hupdate]

theorem save_of_valid (h : record.validate = .ok ()) (s : InstanceStore) :
    (s.save record).1.snapshot = put Instance.id record s.snapshot ∧ (s.save record).2 = .ok () := by
  simp only [save, h]
  exact edit_of_ok (by rw [upsert_eq_put])

theorem save_of_invalid {e : Failure} (h : record.validate = .error e) (s : InstanceStore) :
    s.save record = (s, .error e) := by
  simp only [save, h]

theorem delete_of_some (h : s.get? id = some record) :
    (s.delete id).1.snapshot = s.snapshot.eraseP (·.id == id) ∧ (s.delete id).2 = .ok record :=
  edit_of_ok (by
    have hfind : s.snapshot.find? (·.id == id) = some record := h
    rw [hfind])

theorem delete_of_none (h : s.get? id = none) : s.delete id = (s, .error (unknown id)) :=
  edit_of_error (by
    have hfind : s.snapshot.find? (·.id == id) = none := h
    rw [hfind])

theorem setEnabled_of_mem (h : id ∈ s.ids) (enabled : Bool) :
    (s.setEnabled id enabled).1.snapshot = withEnabled id enabled s.snapshot ∧ (s.setEnabled id enabled).2 = .ok () :=
  edit_of_ok (if_pos (by simpa [ids] using h))

theorem setEnabled_of_not_mem (h : id ∉ s.ids) (enabled : Bool) :
    s.setEnabled id enabled = (s, .error (unknown id)) :=
  edit_of_error (if_neg (by simpa [ids] using h))

theorem replaceAll_of_ok {records : List Instance} (h : checkAll records = .ok ()) (s : InstanceStore) :
    (s.replaceAll records).1.snapshot = records ∧ (s.replaceAll records).2 = .ok () := by
  simp only [replaceAll, h]
  exact edit_of_ok rfl

theorem replaceAll_of_error {records : List Instance} {e : Failure} (h : checkAll records = .error e)
    (s : InstanceStore) : s.replaceAll records = (s, .error e) := by
  simp only [replaceAll, h]

/-! ## the invariant -/

/-- The records are valid, and no id stands twice. -/
structure Sound (s : InstanceStore) : Prop where
  valid : ∀ r ∈ s.snapshot, r.validate = .ok ()
  distinct : s.ids.Nodup

theorem sound_empty : empty.Sound where
  valid _ h := by cases h
  distinct := .nil

theorem Sound.save (h : s.Sound) (record : Instance) : (s.save record).1.Sound := by
  cases hv : record.validate with
  | error e =>
    rw [save_of_invalid hv]
    exact h
  | ok =>
    have hs := (save_of_valid hv s).1
    refine ⟨fun r hr => ?_, ?_⟩
    · rw [hs] at hr
      obtain rfl | hr := mem_of_mem_put hr
      · exact hv
      · exact h.valid r hr
    · rw [ids, hs]
      exact nodup_keys_put h.distinct record

theorem Sound.delete (h : s.Sound) (id : String) : (s.delete id).1.Sound := by
  cases hget : s.get? id with
  | none =>
    rw [delete_of_none hget]
    exact h
  | some record =>
    have hs := (delete_of_some hget).1
    have hsub : (s.delete id).1.snapshot.Sublist s.snapshot := hs ▸ List.eraseP_sublist
    exact ⟨fun r hr => h.valid r (hsub.subset hr), h.distinct.sublist (hsub.map Instance.id)⟩

theorem Sound.setEnabled (h : s.Sound) (id : String) (enabled : Bool) : (s.setEnabled id enabled).1.Sound := by
  by_cases hid : id ∈ s.ids
  · have hs := (setEnabled_of_mem hid enabled).1
    rw [withEnabled_eq_map enabled h.distinct] at hs
    refine ⟨fun r hr => ?_, ?_⟩
    · rw [hs, List.mem_map] at hr
      obtain ⟨old, hold, rfl⟩ := hr
      -- A check reads nothing of whether a record is enabled.
      split <;> exact h.valid old hold
    · have hids : (s.setEnabled id enabled).1.ids = s.ids := by
        rw [ids, hs]
        exact keys_map_key Instance.id (f := fun r => { r with enabled }) (fun _ ha => ha) s.snapshot
      exact hids ▸ h.distinct
  · rw [setEnabled_of_not_mem hid]
    exact h

theorem Sound.replaceAll (h : s.Sound) (records : List Instance) : (s.replaceAll records).1.Sound := by
  cases hc : checkAll records with
  | error e =>
    rw [replaceAll_of_error hc]
    exact h
  | ok =>
    have hs := (replaceAll_of_ok hc s).1
    obtain ⟨hvalid, hn⟩ := checkAll_eq_ok_iff.1 hc
    exact ⟨hs.symm ▸ hvalid, by rw [ids, hs]; exact hn⟩

theorem Sound.step (h : s.Sound) (op : Operation) : (op.run s).1.Sound := by
  cases op with
  | save record => exact h.save record
  | delete id => exact h.delete id
  | setEnabled id enabled => exact h.setEnabled id enabled
  | replaceAll records => exact h.replaceAll records

/-- What a store comes to. -/
def runs (ops : List Operation) (s : InstanceStore) : InstanceStore := ops.foldl (fun s op => (op.run s).1) s

theorem Sound.runs (h : s.Sound) (ops : List Operation) : (runs ops s).Sound := by
  induction ops generalizing s with
  | nil => exact h
  | cons op rest ih => exact ih (h.step op)

theorem ofRecords_of_ok {records : List Instance} (h : checkAll records = .ok ()) :
    ofRecords records = .ok (empty.replaceAll records).1 := by
  have hreplaced : empty.replaceAll records = ((empty.replaceAll records).1, .ok ()) :=
    Prod.ext rfl (replaceAll_of_ok h empty).2
  rw [ofRecords, hreplaced]

theorem ofRecords_of_error {records : List Instance} {e : Failure} (h : checkAll records = .error e) :
    ofRecords records = .error e := by
  rw [ofRecords, replaceAll_of_error h]

theorem sound_ofRecords {records : List Instance} (h : ofRecords records = .ok s) : s.Sound := by
  cases hc : checkAll records with
  | error e =>
    rw [ofRecords_of_error hc] at h
    cases h
  | ok =>
    rw [ofRecords_of_ok hc] at h
    cases h
    exact sound_empty.replaceAll records

/-! ## the map -/

/-- A store as a map from ids to records, in the order in which the ids were added. -/
structure Ordered (s : InstanceStore) : Prop where
  get : ∀ id r, s.get? id = some r ↔ r ∈ s.snapshot ∧ r.id = id
  absent : ∀ id, s.get? id = none ↔ id ∉ s.ids
  /-- A record that is known is replaced where it is, another one comes to the end. -/
  save : ∀ record, record.validate = .ok () → (s.save record).2 = .ok () ∧
    (s.save record).1.snapshot =
      if record.id ∈ s.ids then s.snapshot.map fun r => if r.id = record.id then record else r
      else s.snapshot ++ [record]
  save_failed : ∀ record e, (s.save record).2 = .error e ↔ record.validate = .error e
  delete : ∀ id r, s.get? id = some r →
    (s.delete id).2 = .ok r ∧ (s.delete id).1.snapshot = s.snapshot.filter (·.id != id)
  delete_failed : ∀ id e, (s.delete id).2 = .error e ↔ id ∉ s.ids ∧ e = .notFound "instance" id
  setEnabled : ∀ id enabled, id ∈ s.ids → (s.setEnabled id enabled).2 = .ok () ∧
    (s.setEnabled id enabled).1.snapshot = s.snapshot.map fun r => if r.id = id then { r with enabled } else r
  setEnabled_failed : ∀ id enabled e, (s.setEnabled id enabled).2 = .error e ↔
    id ∉ s.ids ∧ e = .notFound "instance" id
  replaceAll : ∀ records, (s.replaceAll records).2 = .ok () ↔
    (∀ r ∈ records, r.validate = .ok ()) ∧ (records.map Instance.id).Nodup
  replaced : ∀ records, (s.replaceAll records).2 = .ok () → (s.replaceAll records).1.snapshot = records
  /-- What fails changes nothing. -/
  failed : ∀ (op : Operation) e, (op.run s).2 = .error e → (op.run s).1 = s

theorem run_of_failed {op : Operation} {e : Failure} (h : (op.run s).2 = .error e) : (op.run s).1 = s := by
  obtain ⟨v, b, hrun⟩ | ⟨f, hrun⟩ := op.edited s
  · cases h.symm.trans (Prod.ext_iff.1 hrun).2
  · have hrecords : (op.run s).1.records = s.records := (Prod.ext_iff.1 hrun).1
    exact congrArg InstanceStore.mk hrecords

theorem save_failed_iff {e : Failure} : (s.save record).2 = .error e ↔ record.validate = .error e := by
  cases hv : record.validate with
  | error f => rw [save_of_invalid hv]
  | ok => rw [(save_of_valid hv s).2]

theorem delete_failed_iff {e : Failure} : (s.delete id).2 = .error e ↔ id ∉ s.ids ∧ e = unknown id := by
  rw [← get?_eq_none_iff]
  cases hget : s.get? id with
  | none => simp [delete_of_none hget, eq_comm]
  | some record => simp [(delete_of_some hget).2]

theorem setEnabled_failed_iff {enabled : Bool} {e : Failure} :
    (s.setEnabled id enabled).2 = .error e ↔ id ∉ s.ids ∧ e = unknown id := by
  by_cases hid : id ∈ s.ids
  · simp [(setEnabled_of_mem hid enabled).2, hid]
  · simp [setEnabled_of_not_mem hid enabled, hid, eq_comm]

theorem replaceAll_ok_iff {records : List Instance} :
    (s.replaceAll records).2 = .ok () ↔ checkAll records = .ok () := by
  cases hc : checkAll records with
  | error e => simp [replaceAll_of_error hc]
  | ok => simp [(replaceAll_of_ok hc s).2]

theorem Sound.ordered (h : s.Sound) : s.Ordered where
  get id r := find?_key_eq_some_iff Instance.id h.distinct
  absent id := get?_eq_none_iff
  save record hv := by
    obtain ⟨hs, hok⟩ := save_of_valid hv s
    refine ⟨hok, hs.trans ?_⟩
    split
    · exact put_of_mem Instance.id h.distinct ‹_›
    · exact put_of_not_mem Instance.id ‹_›
  save_failed record e := save_failed_iff
  delete id r hget := by
    obtain ⟨hs, hok⟩ := delete_of_some hget
    exact ⟨hok, hs.trans (eraseP_key_eq_filter Instance.id h.distinct id)⟩
  delete_failed id e := delete_failed_iff
  setEnabled id enabled hid := by
    obtain ⟨hs, hok⟩ := setEnabled_of_mem hid enabled
    exact ⟨hok, hs.trans (withEnabled_eq_map enabled h.distinct)⟩
  setEnabled_failed id enabled e := setEnabled_failed_iff
  replaceAll records := replaceAll_ok_iff.trans checkAll_eq_ok_iff
  replaced records hok := (replaceAll_of_ok (replaceAll_ok_iff.1 hok) s).1
  failed op e hf := run_of_failed hf

/-- **A store of instances is a map with an order**, whatever is done to it from where it is empty or has its first
records: what is published are valid records under distinct ids, and every operation is the one on the map, or fails and
changes nothing. -/
theorem runs_form_ordered_map (hs : s = empty ∨ ∃ records, ofRecords records = .ok s) (ops : List Operation) :
    (runs ops s).Sound ∧ (runs ops s).Ordered := by
  have hsound : s.Sound := by
    obtain rfl | ⟨records, hrecords⟩ := hs
    · exact sound_empty
    · exact sound_ofRecords hrecords
  exact ⟨hsound.runs ops, (hsound.runs ops).ordered⟩

/-- Of two records the first is put again under another name, the second is removed, and a third one is added. -/
theorem ordered_map_of_two_records :
    let record (id name : String) : Instance := .create id name ⟨"relay", 443, ⟨"k"⟩, "127.0.0.1:1080"⟩
    let s : InstanceStore := ⟨{ value := [record "a" "one", record "b" "two"], version := 1 }⟩
    let s' := runs [.save (record "a" "other"), .delete "b", .save (record "c" "three")] s
    ofRecords [record "a" "one", record "b" "two"] = .ok s ∧
      s'.snapshot = [record "a" "other", record "c" "three"] ∧ s'.Sound ∧ s'.Ordered := by
  intro record s s'
  have hchecked : checkAll [record "a" "one", record "b" "two"] = .ok () := by decide +kernel
  have hs : ofRecords [record "a" "one", record "b" "two"] = .ok s := by
    rw [ofRecords, InstanceStore.replaceAll, hchecked]
    rfl
  exact ⟨hs, by decide +kernel, runs_form_ordered_map (.inr ⟨_, hs⟩) _⟩

end ProxyKeeper.InstanceStore

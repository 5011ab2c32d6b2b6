/-
The plan against what is wanted (`Plan.connectionFor`): the first enabled
record of an id decides with which connection the id is wanted, if any.

`wanted_eq` says it of the whole list: the enabled records, of each id the
first. `mem_keep_iff`, `mem_retire_iff` and `mem_create_iff` say who is kept,
retired and created. An id is kept by its connection but left out of what is
created by its id alone; the two agree because an id is wanted only once
(`wanted_ids_nodup`).
-/
import ProxyKeeper.Engine.Plan
import ProxyKeeper.Proofs.IdMap

namespace ProxyKeeper

deriving instance ReflBEq, LawfulBEq for Secret

deriving instance ReflBEq, LawfulBEq for Connection

namespace Plan

/-- The connection with which an id is wanted: that of its first enabled record. -/
def connectionFor (desired : List Instance) (id : String) : Option Connection :=
  (desired.find? fun i => i.enabled && i.id == id).map (·.connection)

@[simp] theorem connectionFor_nil (id : String) : connectionFor [] id = none := rfl

/-! ## what is wanted -/

theorem mem_wantedFrom {seen : List String} {desired : List Instance} {i : Instance}
    (h : i ∈ wantedFrom seen desired) : i ∈ desired ∧ i.enabled = true ∧ i.id ∉ seen := by
  induction desired generalizing seen with
  | nil => simp [wantedFrom] at h
  | cons j rest ih =>
    rw [wantedFrom] at h
    split at h
    · rename_i hj
      simp only [Bool.and_eq_true, Bool.not_eq_true', List.contains_eq_mem, decide_eq_false_iff_not] at hj
      rcases List.mem_cons.1 h with rfl | h
      · exact ⟨List.mem_cons_self, hj⟩
      · obtain ⟨hm, he, hs⟩ := ih h
        exact ⟨List.mem_cons_of_mem _ hm, he, fun hin => hs (List.mem_cons_of_mem _ hin)⟩
    · obtain ⟨hm, he, hs⟩ := ih h
      exact ⟨List.mem_cons_of_mem _ hm, he, hs⟩

theorem wantedFrom_ids_nodup (seen : List String) (desired : List Instance) :
    ((wantedFrom seen desired).map (·.id)).Nodup := by
  induction desired generalizing seen with
  | nil => exact List.nodup_nil
  | cons j rest ih =>
    rw [wantedFrom]
    split
    · rw [List.map_cons, List.nodup_cons]
      refine ⟨fun hj => ?_, ih _⟩
      obtain ⟨i, hi, hid⟩ := List.mem_map.1 hj
      exact (mem_wantedFrom hi).2.2 (hid ▸ List.mem_cons_self)
    · exact ih _

/-- Among the wanted, an id finds its first enabled record, unless the id was met before. -/
theorem find?_wantedFrom {seen : List String} {id : String} (desired : List Instance) (hid : id ∉ seen) :
    (wantedFrom seen desired).find? (·.id == id) = desired.find? fun i => i.enabled && i.id == id := by
  induction desired generalizing seen with
  | nil => rfl
  | cons j rest ih =>
    rw [wantedFrom, List.find?_cons]
    by_cases hj : j.id = id
    · have hnew : seen.contains j.id = false := by simpa [hj] using hid
      rw [hnew]
      cases he : j.enabled with
      | true => simp [hj]
      | false => simpa using ih hid
    · have hjb : (j.id == id) = false := beq_false_of_ne hj
      have hid' : id ∉ j.id :: seen := by
        simpa only [List.mem_cons, not_or] using ⟨Ne.symm hj, hid⟩
      rw [hjb, Bool.and_false]
      split
      · rw [List.find?_cons, hjb]
        exact ih hid'
      · exact ih hid

/-- The records that are wanted: the enabled ones, of each id the first. -/
def firstEnabled (desired : List Instance) : List Instance :=
  (desired.filter (·.enabled)).eraseDupsBy fun a b => a.id == b.id

theorem wantedFrom_eq (seen : List String) (desired : List Instance) :
    wantedFrom seen desired = firstEnabled (desired.filter fun i => !seen.contains i.id) := by
  induction desired generalizing seen with
  | nil => rfl
  | cons i rest ih =>
    rw [wantedFrom, List.filter_cons]
    by_cases hs : seen.contains i.id = true
    · rw [hs]
      simpa using ih seen
    · rw [Bool.not_eq_true] at hs
      rw [hs, firstEnabled, Bool.not_false, if_pos rfl, List.filter_cons]
      cases he : i.enabled with
      | false => exact ih seen
      | true =>
        -- An id that was met goes out of what is left at once, or when duplicates go.
        have met : (rest.filter fun j => !(i.id :: seen).contains j.id).filter (·.enabled) =
            ((rest.filter fun j => !seen.contains j.id).filter (·.enabled)).filter
              fun j => decide ((j.id == i.id) = false) := by
          rw [List.filter_filter, List.filter_filter, List.filter_filter]
          refine List.filter_congr fun j _ => ?_
          cases hj : j.id == i.id <;> simp_all [Bool.and_comm]
        rw [if_pos rfl, Bool.and_self, if_pos rfl, List.eraseDupsBy_cons, ih, firstEnabled, met]

theorem wanted_eq (desired : List Instance) : wanted desired = firstEnabled desired := by
  have all : (desired.filter fun i => !([] : List String).contains i.id) = desired :=
    List.filter_eq_self.2 fun _ _ => rfl
  rw [wanted, wantedFrom_eq, all]

theorem wanted_ids_nodup (desired : List Instance) : ((wanted desired).map (·.id)).Nodup :=
  wantedFrom_ids_nodup [] desired

theorem connectionFor_eq (desired : List Instance) (id : String) :
    connectionFor desired id = ((wanted desired).find? (·.id == id)).map (·.connection) := by
  rw [connectionFor, wanted, find?_wantedFrom desired List.not_mem_nil]

theorem connectionFor_eq_some_iff {desired : List Instance} {id : String} {c : Connection} :
    connectionFor desired id = some c ↔ ∃ i ∈ wanted desired, i.id = id ∧ i.connection = c := by
  rw [connectionFor_eq, Option.map_eq_some_iff]
  constructor
  · rintro ⟨i, hf, hc⟩
    exact ⟨i, List.mem_of_find?_eq_some hf, by simpa using List.find?_some hf, hc⟩
  · rintro ⟨i, hi, rfl, rfl⟩
    refine ⟨i, ?_, rfl⟩
    have hn := wanted_ids_nodup desired
    generalize wanted desired = l at hi hn
    induction l with
    | nil => simp at hi
    | cons j rest ih =>
      simp only [List.map_cons, List.nodup_cons] at hn
      rcases List.mem_cons.1 hi with rfl | hi
      · simp
      · have hj : (j.id == i.id) = false := beq_false_of_ne fun he => hn.1 (he ▸ List.mem_map_of_mem hi)
        simp only [List.find?_cons, hj]
        exact ih hi hn.2

theorem isWanted_iff {desired : List Instance} {id : String} {c : Connection} :
    isWanted desired id c = true ↔ connectionFor desired id = some c := by
  simp [isWanted, connectionFor_eq_some_iff]

/-! ## what a plan does -/

section

variable {previous : IdMap Connection} {desired : List Instance} {id : String}

theorem mem_keep_iff :
    id ∈ (compute previous desired).keep ↔
      ∃ c, previous.get? id = some c ∧ connectionFor desired id = some c := by
  simp [compute, isWanted_iff, IdMap.get?_eq_some_iff]

theorem mem_retire_iff :
    id ∈ (compute previous desired).retire ↔
      ∃ c, previous.get? id = some c ∧ connectionFor desired id ≠ some c := by
  simp [compute, ← isWanted_iff, IdMap.get?_eq_some_iff]

theorem mem_create_iff {i : Instance} :
    i ∈ (compute previous desired).create ↔ i ∈ wanted desired ∧ i.id ∉ (compute previous desired).keep := by
  simp [compute]

theorem create_ids_nodup (previous : IdMap Connection) (desired : List Instance) :
    ((compute previous desired).create.map (·.id)).Nodup :=
  (wanted_ids_nodup desired).sublist (List.filter_sublist.map _)

end

end Plan

end ProxyKeeper

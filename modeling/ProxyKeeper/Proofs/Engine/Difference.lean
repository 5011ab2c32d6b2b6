/-
A plan is the difference between what is held and what is wanted
(`Plan.Difference`): it sorts the held ids into two lists, and if one is
released and what is created is put in its place, what is held afterwards is
what is wanted (`applied_compute`).

Who is kept is decided by the first enabled record of the id, by its
connection; who is left out of what is created is decided by the id alone.
That the two fit is `get?_applied_compute`: after the plan every id is found
as it is wanted, because it was kept or because it was created.

Where everything is held as it is wanted, a plan has nothing to do
(`compute_of_get?`).
-/
import ProxyKeeper.Proofs.Engine.Plan
import ProxyKeeper.Proofs.Lists

namespace ProxyKeeper.Plan

/-- The connections that are held for each id once a plan is carried out. -/
def applied (p : Plan) (previous : IdMap Connection) : IdMap Connection :=
  (p.create.map fun i => (i.id, i.connection)).foldl (fun m (id, c) => m.insert id c)
    (p.retire.foldl IdMap.erase previous)

/-- The wanted ids, each with the connection that it is wanted with. -/
def wantedMap (desired : List Instance) : IdMap Connection :=
  .ofList ((firstEnabled desired).map fun i => (i.id, i.connection))

/-- A plan that leads from what is held to what is desired and does no more. -/
structure Difference (previous : IdMap Connection) (desired : List Instance) (p : Plan) : Prop where
  keep_sorted : p.keep.Pairwise (· < ·)
  retire_sorted : p.retire.Pairwise (· < ·)
  disjoint : ∀ id ∈ p.keep, id ∉ p.retire
  /-- Every held id is kept or retired, once. -/
  perm : (p.keep ++ p.retire).Perm previous.keys
  keep_iff : ∀ id, id ∈ p.keep ↔ ∃ c i, previous.get? id = some c ∧
    desired.find? (fun j => j.enabled && j.id == id) = some i ∧ i.connection = c
  /-- In the order of the snapshot, of each id that is not kept the first enabled record. -/
  create_eq : p.create = (firstEnabled desired).filter fun i => i.id ∉ p.keep
  create_iff : ∀ i, i ∈ p.create ↔
    desired.find? (fun j => j.enabled && j.id == i.id) = some i ∧ i.id ∉ p.keep
  create_sublist : p.create.Sublist desired
  create_nodup : (p.create.map (·.id)).Nodup
  /-- What is held and created anew is retired. -/
  recreated : ∀ i ∈ p.create, i.id ∈ previous.keys → i.id ∈ p.retire
  applied : p.applied previous = wantedMap desired
  /-- Planned again, everything is kept. -/
  stable : compute (p.applied previous) desired = ⟨[], [], (wantedMap desired).keys⟩
  noop : (compute (p.applied previous) desired).isNoop = true

variable {previous : IdMap Connection} {desired : List Instance}

/-! ## what is wanted -/

theorem wantedFrom_sublist (seen : List String) (desired : List Instance) :
    (wantedFrom seen desired).Sublist desired := by
  induction desired generalizing seen with
  | nil => exact .refl _
  | cons i rest ih =>
    rw [wantedFrom]
    split
    · exact (ih _).cons_cons i
    · exact (ih _).cons i

theorem mem_wanted_iff {i : Instance} :
    i ∈ wanted desired ↔ desired.find? (fun j => j.enabled && j.id == i.id) = some i := by
  rw [← find?_wantedFrom desired List.not_mem_nil, ← wanted,
    find?_key_eq_some_iff Instance.id (wanted_ids_nodup desired)]
  exact (and_iff_left rfl).symm

theorem get?_wantedMap (desired : List Instance) (id : String) :
    (wantedMap desired).get? id = connectionFor desired id := by
  have nodup : (((firstEnabled desired).map fun i => (i.id, i.connection)).map (·.1)).Nodup := by
    rw [← wanted_eq, List.map_map]
    exact wanted_ids_nodup desired
  rw [wantedMap, IdMap.get?_ofList nodup, ← wanted_eq, List.find?_map, Option.map_map, connectionFor_eq]
  rfl

/-! ## what is held afterwards -/

/-- Among what is created, an id that is not kept finds its first enabled record. -/
theorem find?_create {id : String} (hid : id ∉ (compute previous desired).keep) :
    (compute previous desired).create.find? (·.id == id) = (wanted desired).find? (·.id == id) := by
  have create : (compute previous desired).create =
      (wanted desired).filter fun i => !(compute previous desired).keep.contains i.id := rfl
  rw [create, List.find?_filter]
  congr 1
  funext i
  by_cases hi : i.id = id
  · simp [hi, hid]
  · simp [hi]

theorem find?_create_of_keep {id : String} (hid : id ∈ (compute previous desired).keep) :
    (compute previous desired).create.find? (·.id == id) = none := by
  rw [find?_key_eq_none_iff Instance.id]
  intro hm
  obtain ⟨i, hi, rfl⟩ := List.mem_map.1 hm
  exact (mem_create_iff.1 hi).2 hid

theorem get?_applied_compute (previous : IdMap Connection) (desired : List Instance) (id : String) :
    ((compute previous desired).applied previous).get? id = connectionFor desired id := by
  have nodup : (((compute previous desired).create.map fun i => (i.id, i.connection)).map (·.1)).Nodup := by
    rw [List.map_map]
    exact create_ids_nodup previous desired
  have found : (((compute previous desired).create.map fun i => (i.id, i.connection)).find? (·.1 == id)).map (·.2) =
      ((compute previous desired).create.find? (·.id == id)).map (·.connection) := by
    rw [List.find?_map, Option.map_map]
    rfl
  rw [Plan.applied, IdMap.get?_foldl_insert nodup, IdMap.get?_foldl_erase, found]
  by_cases hk : id ∈ (compute previous desired).keep
  · obtain ⟨c, hc, hw⟩ := mem_keep_iff.1 hk
    have hr : id ∉ (compute previous desired).retire := by
      rw [mem_retire_iff]
      rintro ⟨c', hc', hne⟩
      exact hne (Option.some.inj (hc.symm.trans hc') ▸ hw)
    rw [find?_create_of_keep hk, if_neg hr, hc, hw]
    rfl
  · -- Not kept, so whatever is held goes, and what is wanted is created.
    have gone : (if id ∈ (compute previous desired).retire then none else previous.get? id) = none := by
      split
      · rfl
      · rename_i hr
        rw [Option.eq_none_iff_forall_ne_some]
        intro c hc
        by_cases hw : connectionFor desired id = some c
        · exact hk (mem_keep_iff.2 ⟨c, hc, hw⟩)
        · exact hr (mem_retire_iff.2 ⟨c, hc, hw⟩)
    rw [find?_create hk, gone, Option.or_none, connectionFor_eq]

theorem applied_compute (previous : IdMap Connection) (desired : List Instance) :
    (compute previous desired).applied previous = wantedMap desired :=
  IdMap.ext_get? fun id => (get?_applied_compute previous desired id).trans (get?_wantedMap desired id).symm

/-- Where everything is held as it is wanted there is nothing to do. -/
theorem compute_of_get? (h : ∀ id, previous.get? id = connectionFor desired id) :
    compute previous desired = ⟨[], [], previous.keys⟩ := by
  have current : ∀ entry ∈ previous.entries, isWanted desired entry.1 entry.2 = true := fun entry he =>
    isWanted_iff.2 ((h entry.1).symm.trans (IdMap.get?_eq_some_iff.2 he))
  have keep : (compute previous desired).keep = previous.keys :=
    congrArg (List.map Prod.fst) (List.filter_eq_self.2 current)
  have retire : (compute previous desired).retire = [] := by
    refine List.map_eq_nil_iff.2 (List.filter_eq_nil_iff.2 fun entry he => ?_)
    simp [current entry he]
  have create : (compute previous desired).create = [] := by
    refine List.eq_nil_iff_forall_not_mem.2 fun i hi => ?_
    obtain ⟨hw, hk⟩ := mem_create_iff.1 hi
    rw [keep, IdMap.mem_keys_iff, h] at hk
    exact hk ⟨_, connectionFor_eq_some_iff.2 ⟨i, hw, rfl, rfl⟩⟩
  rw [← keep, ← retire, ← create]

/-! ## the difference -/

theorem keep_sorted (previous : IdMap Connection) (desired : List Instance) :
    (compute previous desired).keep.Pairwise (· < ·) :=
  List.pairwise_map.2 (previous.sorted.filter _)

theorem retire_sorted (previous : IdMap Connection) (desired : List Instance) :
    (compute previous desired).retire.Pairwise (· < ·) :=
  List.pairwise_map.2 (previous.sorted.filter _)

/-- Each held id goes into one of the two lists. -/
theorem keep_append_retire_perm (previous : IdMap Connection) (desired : List Instance) :
    ((compute previous desired).keep ++ (compute previous desired).retire).Perm previous.keys := by
  have perm := List.filter_append_perm (fun entry : String × Connection => isWanted desired entry.1 entry.2)
    previous.entries
  have perm := perm.map (·.1)
  rw [List.map_append] at perm
  exact perm

/-- **A plan is the difference between what is held and what is desired**, for any map and any list, also with
records that are not enabled and ids that stand there again: `Difference` says who is kept, retired and created and
in which order, that the plan leads to what is wanted, and that there is nothing to do after it. -/
theorem compute_is_difference (previous : IdMap Connection) (desired : List Instance) :
    Difference previous desired (compute previous desired) := by
  have perm := keep_append_retire_perm previous desired
  have disjoint : ∀ id ∈ (compute previous desired).keep, id ∉ (compute previous desired).retire := by
    have nodup := perm.nodup_iff.2 previous.keys_nodup
    exact fun id hk hr => (List.nodup_append.1 nodup).2.2 id hk id hr rfl
  have applied := applied_compute previous desired
  have stable : compute ((compute previous desired).applied previous) desired = ⟨[], [], (wantedMap desired).keys⟩ := by
    rw [applied]
    exact compute_of_get? (get?_wantedMap desired)
  refine ⟨keep_sorted previous desired, retire_sorted previous desired, disjoint, perm, fun id => ?_, ?_, fun i => ?_,
    ?_, create_ids_nodup previous desired, fun i hi hp => ?_, applied, stable, ?_⟩
  · rw [mem_keep_iff]
    simp only [connectionFor, Option.map_eq_some_iff, exists_and_left]
  · rw [← wanted_eq]
    refine List.filter_congr fun i _ => ?_
    rw [decide_not, ← List.contains_eq_mem]
    rfl
  · rw [mem_create_iff, mem_wanted_iff]
  · exact List.filter_sublist.trans (wantedFrom_sublist [] desired)
  · have hk : i.id ∉ (compute previous desired).keep := (mem_create_iff.1 hi).2
    exact (List.mem_append.1 (perm.mem_iff.2 hp)).resolve_left hk
  · rw [stable]
    rfl

/-- Of one id the first record is not enabled and the other two differ; one id goes, and one stays. -/
example :
    let c (host : String) : Connection := ⟨host, 443, ⟨"k"⟩, "127.0.0.1:1080"⟩
    let i (id host : String) : Instance := ⟨id, id, true, false, c host⟩
    compute (.ofList [("a", c "old"), ("b", c "b"), ("d", c "d")])
        [{ i "a" "old" with enabled := false }, i "c" "c", i "a" "new", i "a" "old", i "b" "b"] =
      ⟨["a", "d"], [i "c" "c", i "a" "new"], ["b"]⟩ := by decide +kernel

end ProxyKeeper.Plan

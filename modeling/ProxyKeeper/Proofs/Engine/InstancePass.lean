/-
One pass of the engine of instances, in two halves: what the plan retires is
cleared away (`cleared`), then what it creates is built.

`get?_cleared`: what is left after the first half is what is wanted as it is.
`get?_create_free`: so every request of the second half is made for an id
that holds nothing, and no entry is ever written over.
`fingerprint_pass`: after a pass the ids that are held, and the connections
that they are held with, are those that are wanted, whatever was held before
and whatever the factory answered.
-/
import ProxyKeeper.Engine.Instances
import ProxyKeeper.Proofs.Engine.Plan

namespace ProxyKeeper.InstanceEngine

variable {factory : Factory Connection} {wanted : Option (List Instance)} {stock : Stock}

/-- The plan of a pass over what is held. -/
def planOf (wanted : Option (List Instance)) (held : IdMap HeldInstance) : Plan :=
  .compute (held.map (·.fingerprint)) (wanted.getD [])

/-- What is held, and the calls, once the plan's retirements are carried out. -/
def cleared (wanted : Option (List Instance)) (stock : Stock) : Stock :=
  (planOf wanted stock.1).retire.foldl retire stock

theorem pass_eq (factory : Factory Connection) (wanted : Option (List Instance)) (stock : Stock) :
    pass factory wanted stock = (planOf wanted stock.1).create.foldl (build factory) (cleared wanted stock) :=
  rfl

/-! ## lookup after one step -/

theorem get?_retire (stock : Stock) (id x : String) :
    (retire stock id).1.get? x = if x = id then none else stock.1.get? x := by
  rw [retire]
  split
  · rename_i h
    split
    · rename_i hx; rw [hx, h]
    · rfl
  · exact IdMap.get?_erase _ _ _

theorem get?_build (factory : Factory Connection) (stock : Stock) (i : Instance) (x : String) :
    (build factory stock i).1.get? x =
      if x = i.id then some ⟨i.connection, (stock.2.create factory i.connection).2⟩ else stock.1.get? x :=
  IdMap.get?_insert _ _ _ _

/-! ## lookup after many -/

theorem get?_foldl_retire (ids : List String) (stock : Stock) (x : String) :
    (ids.foldl retire stock).1.get? x = if x ∈ ids then none else stock.1.get? x := by
  induction ids generalizing stock with
  | nil => simp
  | cons id rest ih =>
    rw [List.foldl_cons, ih, get?_retire]
    by_cases hx : x = id <;> by_cases hr : x ∈ rest <;> simp [hx, hr]

theorem get?_foldl_build_of_not_mem {instances : List Instance} {x : String}
    (hx : x ∉ instances.map (·.id)) (stock : Stock) :
    (instances.foldl (build factory) stock).1.get? x = stock.1.get? x := by
  induction instances generalizing stock with
  | nil => rfl
  | cons i rest ih =>
    simp only [List.map_cons, List.mem_cons, not_or] at hx
    rw [List.foldl_cons, ih hx.2, get?_build, if_neg hx.1]

theorem get?_foldl_build_of_mem (factory : Factory Connection) {instances : List Instance}
    (hn : (instances.map (·.id)).Nodup) {i : Instance} (hi : i ∈ instances) (stock : Stock) :
    ∃ outcome, (instances.foldl (build factory) stock).1.get? i.id = some ⟨i.connection, outcome⟩ := by
  induction instances generalizing stock with
  | nil => simp at hi
  | cons j rest ih =>
    simp only [List.map_cons, List.nodup_cons] at hn
    rw [List.foldl_cons]
    rcases List.mem_cons.1 hi with rfl | hi
    · rw [get?_foldl_build_of_not_mem hn.1, get?_build, if_pos rfl]
      exact ⟨_, rfl⟩
    · exact ih hn.2 hi _

/-! ## the two halves of a pass -/

theorem mem_keep_planOf {id : String} :
    id ∈ (planOf wanted stock.1).keep ↔
      ∃ entry, stock.1.get? id = some entry ∧ Plan.connectionFor (wanted.getD []) id = some entry.fingerprint := by
  simp only [planOf, Plan.mem_keep_iff, IdMap.get?_map, Option.map_eq_some_iff]
  constructor
  · rintro ⟨c, ⟨entry, he, rfl⟩, hw⟩
    exact ⟨entry, he, hw⟩
  · rintro ⟨entry, he, hw⟩
    exact ⟨_, ⟨entry, he, rfl⟩, hw⟩

theorem mem_retire_planOf {id : String} :
    id ∈ (planOf wanted stock.1).retire ↔
      ∃ entry, stock.1.get? id = some entry ∧ Plan.connectionFor (wanted.getD []) id ≠ some entry.fingerprint := by
  simp only [planOf, Plan.mem_retire_iff, IdMap.get?_map, Option.map_eq_some_iff]
  constructor
  · rintro ⟨c, ⟨entry, he, rfl⟩, hw⟩
    exact ⟨entry, he, hw⟩
  · rintro ⟨entry, he, hw⟩
    exact ⟨_, ⟨entry, he, rfl⟩, hw⟩

theorem planOf_create_nodup (wanted : Option (List Instance)) (held : IdMap HeldInstance) :
    ((planOf wanted held).create.map (·.id)).Nodup := Plan.create_ids_nodup _ _

/-- What is left once the retirements are carried out: the entries that are wanted as they are. -/
theorem get?_cleared (id : String) :
    (cleared wanted stock).1.get? id =
      (stock.1.get? id).filter fun entry => Plan.connectionFor (wanted.getD []) id = some entry.fingerprint := by
  rw [cleared, get?_foldl_retire]
  cases he : stock.1.get? id with
  | none => simp
  | some entry =>
    by_cases hw : Plan.connectionFor (wanted.getD []) id = some entry.fingerprint
    · have hr : id ∉ (planOf wanted stock.1).retire := by
        rw [mem_retire_planOf]
        rintro ⟨e, he', hne⟩
        exact hne (Option.some.inj (he.symm.trans he') ▸ hw)
      rw [if_neg hr]
      simp [Option.filter, hw]
    · rw [if_pos (mem_retire_planOf.2 ⟨entry, he, hw⟩)]
      simp [Option.filter, hw]

theorem get?_cleared_of_create {i : Instance} (hi : i ∈ (planOf wanted stock.1).create) :
    (cleared wanted stock).1.get? i.id = none := by
  have hk : i.id ∉ (planOf wanted stock.1).keep := (Plan.mem_create_iff.1 hi).2
  rw [get?_cleared, Option.filter_eq_none_iff]
  intro entry he hw
  exact hk (mem_keep_planOf.2 ⟨entry, he, by simpa using hw⟩)

/-- Every request is made for an id that holds nothing. -/
theorem get?_create_free (factory : Factory Connection) (stock : Stock) {before after : List Instance}
    {i : Instance} (h : (planOf wanted stock.1).create = before ++ i :: after) :
    (before.foldl (build factory) (cleared wanted stock)).1.get? i.id = none := by
  have hn := planOf_create_nodup wanted stock.1
  rw [h, List.map_append, List.map_cons, List.nodup_append] at hn
  have hb : i.id ∉ before.map (·.id) := fun hm => hn.2.2 _ hm _ List.mem_cons_self rfl
  rw [get?_foldl_build_of_not_mem hb]
  exact get?_cleared_of_create (by rw [h]; simp)

/-! ## the whole pass -/

/-- An entry that is wanted as it is stays as it is, a failed one too. -/
theorem get?_pass_kept {id : String} {entry : HeldInstance} (he : stock.1.get? id = some entry)
    (hw : Plan.connectionFor (wanted.getD []) id = some entry.fingerprint) :
    (pass factory wanted stock).1.get? id = some entry := by
  have hk : id ∈ (planOf wanted stock.1).keep := mem_keep_planOf.2 ⟨entry, he, hw⟩
  have hc : id ∉ (planOf wanted stock.1).create.map (·.id) := by
    rintro hm
    obtain ⟨i, hi, rfl⟩ := List.mem_map.1 hm
    exact (Plan.mem_create_iff.1 hi).2 hk
  rw [pass_eq, get?_foldl_build_of_not_mem hc, get?_cleared, he]
  simp [Option.filter, hw]

/-- After a pass exactly what is wanted is held, with the connection that it is wanted with. -/
theorem fingerprint_pass (factory : Factory Connection) (wanted : Option (List Instance)) (stock : Stock)
    (id : String) :
    ((pass factory wanted stock).1.get? id).map (·.fingerprint) =
      Plan.connectionFor (wanted.getD []) id := by
  by_cases hc : id ∈ (planOf wanted stock.1).create.map (·.id)
  · obtain ⟨i, hi, rfl⟩ := List.mem_map.1 hc
    obtain ⟨outcome, ho⟩ :=
      get?_foldl_build_of_mem factory (planOf_create_nodup wanted stock.1) hi (cleared wanted stock)
    rw [pass_eq, ho]
    exact (Plan.connectionFor_eq_some_iff.2 ⟨i, (Plan.mem_create_iff.1 hi).1, rfl, rfl⟩).symm
  · rw [pass_eq, get?_foldl_build_of_not_mem hc, get?_cleared]
    cases hw : Plan.connectionFor (wanted.getD []) id with
    | none => cases stock.1.get? id <;> simp [Option.filter]
    | some c =>
      -- Wanted and not created, so it is kept.
      obtain ⟨i, hi, rfl, rfl⟩ := Plan.connectionFor_eq_some_iff.1 hw
      have hk : i.id ∈ (planOf wanted stock.1).keep := Decidable.byContradiction fun hk =>
        hc (List.mem_map_of_mem (Plan.mem_create_iff.2 ⟨hi, hk⟩))
      obtain ⟨entry, he, hf⟩ := mem_keep_planOf.1 hk
      have hf : i.connection = entry.fingerprint := Option.some.inj (hw.symm.trans hf)
      simp [he, Option.filter, hf]

theorem pass_none_held (factory : Factory Connection) (stock : Stock) (id : String) :
    (pass factory none stock).1.get? id = none := by
  simpa using fingerprint_pass factory none stock id

end ProxyKeeper.InstanceEngine

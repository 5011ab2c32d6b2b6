/-
What one pass of the engine of instances asks of its factory, call by call.

The log of a pass is written out in full: first what is held and out of date
is released, in the order of ids (`outdated`), then what is wanted and
missing is requested, in the order of the snapshot (`missing`). The plan keeps
an id by its connection and leaves it out of what is created by its id alone;
`create_planOf` is where the two agree.

`callsFor_passLog` reads the log for one id: only what the id itself is held
and wanted with decides which calls are made for it, whatever else the
snapshot says of it and whatever it says of other ids.
-/
import Mathlib.Data.List.Basic
import ProxyKeeper.Proofs.Engine.Requests
import ProxyKeeper.Proofs.Lists

namespace ProxyKeeper.InstanceEngine

/-- Handles that are held for another connection than the wanted one, in the order of their ids. -/
def outdated (desired : List Instance) (held : IdMap HeldInstance) : List (String × Nat) :=
  held.entries.filterMap fun (id, entry) =>
    if Plan.connectionFor desired id = some entry.fingerprint then none
    else entry.resource.toOption.map fun handle => (id, handle)

/-- Wanted records that nothing is held for with their connection, in the order of the snapshot. -/
def missing (desired : List Instance) (held : IdMap HeldInstance) : List Instance :=
  (Plan.firstEnabled desired).filter fun i => (held.get? i.id).map (·.fingerprint) ≠ some i.connection

variable {factory : Factory Connection} {wanted : Option (List Instance)} {stock : Stock}

/-! ## what is released -/

theorem calls_retire_eq (stock : Stock) (id : String) :
    (retire stock id).2.calls =
      stock.2.calls ++ ((stock.1.get? id).bind (·.resource.toOption)).toList.map .destroy := by
  rw [retire]
  cases stock.1.get? id with
  | none => simp
  | some entry => cases h : entry.resource <;> simp [h, Except.toOption, Ledger.destroy]

theorem labelled_retire {ids : List String} (hn : ids.Nodup) (stock : Stock) :
    labelled retire (fun id => id) ids stock =
      ids.filterMap fun id =>
        ((stock.1.get? id).bind (·.resource.toOption)).map fun handle => (id, .destroy handle) := by
  induction ids generalizing stock with
  | nil => rfl
  | cons id rest ih =>
    obtain ⟨hid, hrest⟩ := List.nodup_cons.1 hn
    -- What is held for the other ids is not touched.
    have same : ∀ x ∈ rest, (retire stock id).1.get? x = stock.1.get? x := by
      intro x hx
      rw [get?_retire, if_neg]
      rintro rfl
      exact hid hx
    rw [labelled, ih hrest, calls_retire_eq, List.drop_left, List.filterMap_cons]
    have tail : rest.filterMap (fun x => (((retire stock id).1.get? x).bind (·.resource.toOption)).map
          fun handle => (x, FactoryCall.destroy (P := Connection) handle)) =
        rest.filterMap fun x => ((stock.1.get? x).bind (·.resource.toOption)).map
          fun handle => (x, .destroy handle) :=
      List.filterMap_congr fun x hx => by rw [same x hx]
    rw [tail]
    cases (stock.1.get? id).bind (·.resource.toOption) <;> rfl

theorem retire_planOf_nodup (wanted : Option (List Instance)) (held : IdMap HeldInstance) :
    (planOf wanted held).retire.Nodup := by
  have h := (held.map (·.fingerprint)).keys_nodup
  exact h.sublist (List.filter_sublist.map _)

/-- The first half of the log: what is out of date is released, in the order of ids. -/
theorem labelled_retire_planOf (wanted : Option (List Instance)) (stock : Stock) :
    labelled retire (fun id => id) (planOf wanted stock.1).retire stock =
      (outdated (wanted.getD []) stock.1).map fun (id, handle) => (id, .destroy handle) := by
  rw [labelled_retire (retire_planOf_nodup wanted stock.1), outdated, List.map_filterMap, planOf, Plan.compute,
    IdMap.map, List.filter_map, List.map_map, List.filterMap_map, List.filterMap_filter]
  refine List.filterMap_congr ?_
  rintro ⟨id, entry⟩ he
  have hg : stock.1.get? id = some entry := IdMap.get?_eq_some_iff.2 he
  by_cases hw : Plan.connectionFor (wanted.getD []) id = some entry.fingerprint
  · simp [Plan.isWanted_iff.2 hw, hw]
  · have hf : Plan.isWanted (wanted.getD []) id entry.fingerprint = false := by
      rw [← Bool.not_eq_true, Plan.isWanted_iff]
      exact hw
    cases hr : entry.resource.toOption <;> simp [hf, hw, hg, hr]

/-! ## what is requested -/

/-- The plan creates what is missing: who is not kept by id is not held with the wanted connection. -/
theorem create_planOf (wanted : Option (List Instance)) (held : IdMap HeldInstance) :
    (planOf wanted held).create = missing (wanted.getD []) held := by
  rw [planOf, Plan.compute, missing, ← Plan.wanted_eq]
  refine List.filter_congr fun i hi => ?_
  have hc : Plan.connectionFor (wanted.getD []) i.id = some i.connection :=
    Plan.connectionFor_eq_some_iff.2 ⟨i, hi, rfl, rfl⟩
  have hk : i.id ∈ (planOf wanted held).keep ↔ (held.get? i.id).map (·.fingerprint) = some i.connection := by
    rw [planOf, Plan.mem_keep_iff, IdMap.get?_map, hc]
    simp [eq_comm]
  simp only [ne_eq, ← hk, planOf, Plan.compute, List.contains_eq_mem]
  simp

/-- The second half of the log: one request after the other, with whatever outcome. -/
theorem labelled_build (factory : Factory Connection) (instances : List Instance) (stock : Stock) :
    ∃ requests : List (Instance × Except String Nat), requests.map (·.1) = instances ∧
      labelled (build factory) (·.id) instances stock =
        requests.map fun (i, outcome) => (i.id, .create i.connection outcome) := by
  induction instances generalizing stock with
  | nil => exact ⟨[], rfl, rfl⟩
  | cons i rest ih =>
    obtain ⟨requests, hi, hl⟩ := ih (build factory stock i)
    refine ⟨(i, (stock.2.create factory i.connection).2) :: requests, by rw [List.map_cons, hi], ?_⟩
    rw [labelled, calls_build, List.drop_left, hl]
    rfl

/-! ## the log of a pass -/

theorem passLog_eq (factory : Factory Connection) (wanted : Option (List Instance)) (stock : Stock) :
    ∃ requests : List (Instance × Except String Nat),
      requests.map (·.1) = missing (wanted.getD []) stock.1 ∧
      passLog factory wanted stock =
        ((outdated (wanted.getD []) stock.1).map fun (id, handle) => (id, .destroy handle)) ++
          requests.map fun (i, outcome) => (i.id, .create i.connection outcome) := by
  obtain ⟨requests, hr, hl⟩ :=
    labelled_build factory (planOf wanted stock.1).create (cleared wanted stock)
  refine ⟨requests, hr.trans (create_planOf wanted stock.1), ?_⟩
  rw [passLog, labelled_retire_planOf, hl]

/-! ## the log of one id -/

/-- The calls of a log that were made for the id. -/
def callsFor (id : String) (log : Log) : List (FactoryCall Connection) := (log.filter (·.1 == id)).map (·.2)

theorem callsFor_append (id : String) (a b : Log) : callsFor id (a ++ b) = callsFor id a ++ callsFor id b := by
  simp [callsFor]

theorem outdated_filter (desired : List Instance) (held : IdMap HeldInstance) (id : String) :
    (outdated desired held).filter (·.1 == id) =
      if Plan.connectionFor desired id = (held.get? id).map (·.fingerprint) then []
      else ((held.get? id).bind (·.resource.toOption)).toList.map fun handle => (id, handle) := by
  have keyed : (outdated desired held).filter (·.1 == id) =
      (held.entries.filter (·.1 == id)).filterMap fun (x, entry) =>
        if Plan.connectionFor desired x = some entry.fingerprint then none
        else entry.resource.toOption.map fun handle => (x, handle) := by
    rw [outdated, List.filter_filterMap, List.filterMap_filter]
    refine List.filterMap_congr fun ⟨x, entry⟩ _ => ?_
    by_cases hw : Plan.connectionFor desired x = some entry.fingerprint
    · simp [hw]
    · simp only [if_neg hw]
      cases entry.resource.toOption <;> by_cases hx : x = id <;> simp [hx]
  rw [keyed, filter_key_eq_find? (fun pair : String × HeldInstance => pair.1) held.keys_nodup id]
  cases hf : held.entries.find? (·.1 == id) with
  | none => simp [IdMap.get?, hf]
  | some pair =>
    obtain ⟨x, entry⟩ := pair
    have hx : x = id := by simpa using List.find?_some hf
    subst hx
    have hg : held.get? x = some entry := by rw [IdMap.get?, hf]; rfl
    rw [hg]
    by_cases hw : Plan.connectionFor desired x = some entry.fingerprint
    · simp [hw]
    · cases hr : entry.resource.toOption <;> simp [hw, hr]

theorem missing_ids_nodup (desired : List Instance) (held : IdMap HeldInstance) :
    ((missing desired held).map (·.id)).Nodup := by
  have h := Plan.wanted_ids_nodup desired
  rw [Plan.wanted_eq] at h
  exact h.sublist (List.filter_sublist.map _)

theorem mem_missing_iff {desired : List Instance} {held : IdMap HeldInstance} {i : Instance} :
    i ∈ missing desired held ↔
      i ∈ Plan.wanted desired ∧ (held.get? i.id).map (·.fingerprint) ≠ some i.connection := by
  rw [missing, ← Plan.wanted_eq]
  simp

/-- Requests for what is missing: of one id there is one, if its wanted connection is not the held one. -/
theorem requests_filter {desired : List Instance} {held : IdMap HeldInstance}
    {requests : List (Instance × Except String Nat)} (hr : requests.map (·.1) = missing desired held)
    (id : String) :
    ∃ outcome, (requests.filter (·.1.id == id)).map (fun (i, o) => FactoryCall.create i.connection o) =
      if Plan.connectionFor desired id = (held.get? id).map (·.fingerprint) then []
      else (Plan.connectionFor desired id).toList.map fun c => .create c outcome := by
  have hn : (requests.map fun r => r.1.id).Nodup := by
    have h := missing_ids_nodup desired held
    rwa [← hr, List.map_map] at h
  rw [filter_key_eq_find? (fun r : Instance × Except String Nat => r.1.id) hn id]
  cases hf : requests.find? (·.1.id == id) with
  | some request =>
    obtain ⟨i, outcome⟩ := request
    have hid : i.id = id := by simpa using List.find?_some hf
    have hi : i ∈ missing desired held := hr ▸ List.mem_map_of_mem (f := (·.1)) (List.mem_of_find?_eq_some hf)
    obtain ⟨hw, hne⟩ := mem_missing_iff.1 hi
    have hc : Plan.connectionFor desired id = some i.connection :=
      Plan.connectionFor_eq_some_iff.2 ⟨i, hw, hid, rfl⟩
    refine ⟨outcome, ?_⟩
    rw [hc, if_neg (hid ▸ Ne.symm hne)]
    rfl
  | none =>
    refine ⟨.error "", ?_⟩
    split
    · rfl
    · rename_i hne
      cases hc : Plan.connectionFor desired id with
      | none => rfl
      | some c =>
        -- Wanted with another connection than the held one, so it would be missing.
        obtain ⟨i, hw, rfl, rfl⟩ := Plan.connectionFor_eq_some_iff.1 hc
        have hi : i ∈ missing desired held := mem_missing_iff.2 ⟨hw, fun h => hne (hc.trans h.symm)⟩
        obtain ⟨request, hm, rfl⟩ := List.mem_map.1 (hr ▸ hi)
        simpa using List.find?_eq_none.1 hf request hm

/-- The calls that a pass makes for an id: none if it is held as it is wanted, else it is released if
there is a handle, and then requested if it is wanted. -/
theorem callsFor_passLog (factory : Factory Connection) (wanted : Option (List Instance)) (stock : Stock)
    (id : String) :
    ∃ outcome, callsFor id (passLog factory wanted stock) =
      if Plan.connectionFor (wanted.getD []) id = (stock.1.get? id).map (·.fingerprint) then []
      else ((stock.1.get? id).bind (·.resource.toOption)).toList.map .destroy ++
        (Plan.connectionFor (wanted.getD []) id).toList.map fun c => .create c outcome := by
  obtain ⟨requests, hr, hl⟩ := passLog_eq factory wanted stock
  obtain ⟨outcome, ho⟩ := requests_filter hr id
  have released := congrArg (List.map fun r : String × Nat => FactoryCall.destroy (P := Connection) r.2)
    (outdated_filter (wanted.getD []) stock.1 id)
  refine ⟨outcome, ?_⟩
  rw [hl, callsFor_append]
  simp only [callsFor, List.filter_map, List.map_map, Function.comp_def] at released ho ⊢
  rw [released, ho]
  split <;> simp

/-! ## every pass -/

/-- **A pass makes the calls that it must and no others**, from whatever the engine holds and whatever the
factory answers: it releases the handles that are held for a connection that is not wanted for their id, in the
order of ids, and then requests, in the order of the snapshot, the wanted records that are not held with their
connection. So an id that is held as it is wanted causes no call and keeps its entry, a failed one too; one that
is wanted with another connection is released if it has a handle and requested once; and no request comes before a
release. -/
theorem pass_calls_minimal (factory : Factory Connection) (e : InstanceEngine)
    (wanted : Option (List Instance)) :
    let desired := wanted.getD []
    let after := e.apply trade factory wanted
    let log := passLog factory wanted (e.held, e.ledger)
    after.ledger.calls = e.ledger.calls ++ log.map (·.2) ∧
      (∃ requests : List (Instance × Except String Nat), requests.map (·.1) = missing desired e.held ∧
        log = (outdated desired e.held).map (fun (id, handle) => (id, .destroy handle)) ++
          requests.map fun (i, outcome) => (i.id, .create i.connection outcome)) ∧
      (∀ id entry, e.held.get? id = some entry → Plan.connectionFor desired id = some entry.fingerprint →
        callsFor id log = [] ∧ after.held.get? id = some entry) ∧
      (∀ id entry c, e.held.get? id = some entry → Plan.connectionFor desired id = some c →
        c ≠ entry.fingerprint →
        ∃ outcome, callsFor id log = entry.resource.toOption.toList.map .destroy ++ [.create c outcome]) ∧
      (log.map (·.2)).Pairwise fun a b => Ledger.released? a = none → Ledger.released? b = none := by
  intro desired after log
  obtain ⟨requests, hr, hl⟩ := passLog_eq factory wanted (e.held, e.ledger)
  refine ⟨calls_pass factory wanted (e.held, e.ledger), ⟨requests, hr, hl⟩, fun id entry he hw => ⟨?_, ?_⟩,
    fun id entry c he hw hne => ?_, ?_⟩
  · obtain ⟨outcome, ho⟩ := callsFor_passLog factory wanted (e.held, e.ledger) id
    rw [ho, if_pos]
    rw [he]
    exact hw
  · exact (get?_pass_kept he hw : (pass factory wanted (e.held, e.ledger)).1.get? id = some entry)
  · obtain ⟨outcome, ho⟩ := callsFor_passLog factory wanted (e.held, e.ledger) id
    have hc : Plan.connectionFor (wanted.getD []) id = some c := hw
    refine ⟨outcome, ?_⟩
    rw [ho, if_neg] <;> rw [he, hc]
    · rfl
    · exact fun h => hne (Option.some.inj h)
  · have released : ∀ a ∈ (outdated desired e.held).map fun r => FactoryCall.destroy (P := Connection) r.2,
        Ledger.released? a ≠ none := by
      intro a ha
      obtain ⟨r, -, rfl⟩ := List.mem_map.1 ha
      exact Option.some_ne_none _
    have requested : ∀ b ∈ requests.map fun r => FactoryCall.create r.1.connection r.2,
        Ledger.released? b = none := by
      intro b hb
      obtain ⟨r, -, rfl⟩ := List.mem_map.1 hb
      rfl
    show ((passLog factory wanted (e.held, e.ledger)).map (·.2)).Pairwise _
    rw [hl, List.map_append, List.map_map, List.map_map, List.pairwise_append]
    refine ⟨?_, ?_, fun a ha _ _ hn => absurd hn (released a ha)⟩
    · exact List.Pairwise.imp_of_mem (fun ha _ _ hn => absurd hn (released _ ha)) (List.pairwise_of_forall fun _ _ => trivial)
    · exact List.Pairwise.imp_of_mem (fun _ hb _ _ => requested _ hb) (List.pairwise_of_forall fun _ _ => trivial)

end ProxyKeeper.InstanceEngine

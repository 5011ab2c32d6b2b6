/-
Handles of the engine of instances, over whole runs: what the calls say is
alive is what the engine holds, one handle for one id (`Owns`).

Releasing an entry keeps this for any id (`Owns.retire`). Making a handle
keeps it only for an id that holds nothing (`Owns.build`): an entry written
over would leave its handle alive with nobody to give it back. That no pass
does so is `InstanceEngine.get?_create_free`.
-/
import ProxyKeeper.Proofs.Engine.InstancePass
import ProxyKeeper.Proofs.Engine.Ledger
import ProxyKeeper.Proofs.Engine.Run

namespace ProxyKeeper.InstanceEngine

/-- The handle is held for the id. -/
def Holds (held : IdMap HeldInstance) (id : String) (h : Nat) : Prop :=
  ∃ c, held.get? id = some ⟨c, .ok h⟩

/-- What is alive is what is held, and no handle is held for two ids. -/
structure Owns (stock : Stock) : Prop where
  sound : stock.2.Sound
  alive_iff : ∀ h, h ∈ stock.2.alive ↔ ∃ id, Holds stock.1 id h
  one_id : ∀ {id id' h}, Holds stock.1 id h → Holds stock.1 id' h → id = id'

theorem Owns.empty : Owns (∅, .empty) where
  sound := .empty
  alive_iff h := by simp [Ledger.empty, Ledger.alive, Ledger.created, Holds]
  one_id := by simp [Holds]

/-! ## one step -/

theorem holds_retire {stock : Stock} {id x : String} {h : Nat} :
    Holds (retire stock id).1 x h ↔ x ≠ id ∧ Holds stock.1 x h := by
  simp only [Holds, get?_retire]
  split <;> simp_all

theorem Owns.retire {stock : Stock} (hs : Owns stock) (id : String) : Owns (retire stock id) := by
  have one : ∀ {x y h}, Holds (InstanceEngine.retire stock id).1 x h →
      Holds (InstanceEngine.retire stock id).1 y h → x = y :=
    fun hx hy => hs.one_id (holds_retire.1 hx).2 (holds_retire.1 hy).2
  cases he : stock.1.get? id with
  | none =>
    have hr : InstanceEngine.retire stock id = stock := by simp only [InstanceEngine.retire, he]
    rw [hr]
    exact hs
  | some entry =>
    obtain ⟨c, resource⟩ := entry
    cases resource with
    | error message =>
      have hl : (InstanceEngine.retire stock id).2 = stock.2 := by simp only [InstanceEngine.retire, he]
      refine ⟨hl ▸ hs.sound, fun h => ?_, one⟩
      rw [hl, hs.alive_iff]
      refine exists_congr fun x => ⟨fun hx => holds_retire.2 ⟨?_, hx⟩, fun hx => (holds_retire.1 hx).2⟩
      rintro rfl
      obtain ⟨c', hc⟩ := hx
      simp [he] at hc
    | ok own =>
      have hl : (InstanceEngine.retire stock id).2 = stock.2.destroy own := by
        simp only [InstanceEngine.retire, he]
      have hown : Holds stock.1 id own := ⟨c, he⟩
      refine ⟨hl ▸ hs.sound.destroy ((hs.alive_iff own).2 ⟨id, hown⟩), fun h => ?_, one⟩
      rw [hl, Ledger.mem_alive_destroy, hs.alive_iff]
      constructor
      · rintro ⟨⟨x, hx⟩, hne⟩
        refine ⟨x, holds_retire.2 ⟨?_, hx⟩⟩
        rintro rfl
        obtain ⟨c', hc⟩ := hx
        rw [he] at hc
        cases hc
        exact hne rfl
      · rintro ⟨x, hx⟩
        obtain ⟨hne, hx⟩ := holds_retire.1 hx
        refine ⟨⟨x, hx⟩, ?_⟩
        rintro rfl
        exact hne (hs.one_id hx hown)

theorem holds_build {factory : Factory Connection} {stock : Stock} {i : Instance}
    (free : stock.1.get? i.id = none) {x : String} {h : Nat} :
    Holds (build factory stock i).1 x h ↔
      Holds stock.1 x h ∨ x = i.id ∧ (stock.2.create factory i.connection).2 = .ok h := by
  simp only [Holds, get?_build]
  split
  · rename_i hx
    subst hx
    simp [free]
  · simp_all

theorem Owns.build {stock : Stock} (hs : Owns stock) (factory : Factory Connection) {i : Instance}
    (free : stock.1.get? i.id = none) : Owns (build factory stock i) where
  sound := hs.sound.create factory i.connection
  alive_iff h := by
    have hl : (InstanceEngine.build factory stock i).2 = (stock.2.create factory i.connection).1 := rfl
    rw [hl, hs.sound.mem_alive_create, hs.alive_iff]
    simp only [holds_build free]
    constructor
    · rintro (⟨x, hx⟩ | ho)
      · exact ⟨x, .inl hx⟩
      · exact ⟨i.id, .inr ⟨rfl, ho⟩⟩
    · rintro ⟨x, hx | ⟨-, ho⟩⟩
      · exact .inl ⟨x, hx⟩
      · exact .inr ho
  one_id {x y h} hx hy := by
    -- A handle that was held before is alive, and what is made is not.
    have fresh : ∀ z, Holds stock.1 z h → (stock.2.create factory i.connection).2 ≠ .ok h := by
      intro z hz ho
      have ha := Ledger.mem_alive_iff.1 ((hs.alive_iff h).2 ⟨z, hz⟩)
      rcases Ledger.create_cases factory i.connection stock.2 with ⟨message, hm⟩ | hn
      · cases hm.symm.trans ho
      · cases hn.symm.trans ho
        exact hs.sound.nextHandle_fresh ha.1
    rcases (holds_build free).1 hx with hx | ⟨rfl, hxo⟩ <;> rcases (holds_build free).1 hy with hy | ⟨rfl, hyo⟩
    · exact hs.one_id hx hy
    · exact absurd hyo (fresh x hx)
    · exact absurd hxo (fresh y hy)
    · rfl

/-! ## one pass -/

theorem Owns.cleared {stock : Stock} (hs : Owns stock) (wanted : Option (List Instance)) :
    Owns (cleared wanted stock) :=
  List.foldlRecOn _ _ hs fun _ h id _ => h.retire id

theorem Owns.foldl_build {factory : Factory Connection} {instances : List Instance} {stock : Stock}
    (hs : Owns stock)
    (free : ∀ before i after, instances = before ++ i :: after →
      (before.foldl (InstanceEngine.build factory) stock).1.get? i.id = none) :
    Owns (instances.foldl (InstanceEngine.build factory) stock) := by
  induction instances generalizing stock with
  | nil => exact hs
  | cons i rest ih =>
    refine ih (hs.build factory (free [] i rest rfl)) fun before j after h => ?_
    exact free (i :: before) j after (by rw [h]; rfl)

theorem Owns.pass {stock : Stock} (hs : Owns stock) (factory : Factory Connection)
    (wanted : Option (List Instance)) : Owns (pass factory wanted stock) := by
  rw [pass_eq]
  exact (hs.cleared wanted).foldl_build fun _ _ _ h => get?_create_free factory stock h

theorem Owns.record_pass {r : Record Connection (IdMap HeldInstance) InstanceView} (hr : Owns r.stock)
    (factory : Factory Connection) (wanted : Option (List Instance)) :
    Owns (r.pass trade factory wanted).stock := hr.pass factory wanted

/-- After a pass that wants nothing, nothing is alive. -/
theorem Owns.alive_pass_none {stock : Stock} (hs : Owns stock) (factory : Factory Connection) :
    (InstanceEngine.pass factory none stock).2.alive = [] := by
  rw [List.eq_nil_iff_forall_not_mem]
  intro h ha
  obtain ⟨id, c, hc⟩ := ((hs.pass factory none).alive_iff h).1 ha
  rw [pass_none_held] at hc
  cases hc

/-- And the view is empty. -/
theorem instances_pass_none (factory : Factory Connection)
    (r : Record Connection (IdMap HeldInstance) InstanceView) :
    (r.pass trade factory none).view.value.instances = ∅ := by
  refine IdMap.eq_empty_of_get? fun id => ?_
  have hv : (r.pass trade factory none).view.value.instances.get? id =
      ((pass factory none r.stock).1.get? id).map HeldInstance.status := IdMap.get?_map _ _ _
  rw [hv, pass_none_held]
  rfl

/-! ## every run -/

theorem owns_run (factory : Factory Connection) (source : Watch (List Instance))
    (moves : List (Move (List Instance))) :
    Owns (World.run trade factory moves (.create trade source)).engine.record.stock :=
  World.record_induction (I := fun r => Owns r.stock) trade factory .empty
    (fun _ wanted h => h.record_pass factory wanted) source moves

/-- A move that runs a pass while the engine is stopped runs none that wants anything. -/
theorem passes_of_stopped {w : World (List Instance) Connection (IdMap HeldInstance) InstanceView}
    (hs : w.engine.isStarted = false) (m : Move (List Instance)) : ∀ p ∈ w.passes m, p = none := by
  intro p hp
  have hw : ∀ snapshot, w.engine.wanted snapshot = none := fun snapshot => by simp [Engine.wanted, hs]
  cases m with
  | reconcile snapshot => simpa [World.passes, hw] using hp
  | settle => simp only [World.passes, hw] at hp; split at hp <;> simp_all
  | shutdown => simp only [World.passes, hw] at hp; split at hp <;> simp_all
  | start | stop | spawn | publish | closeSource => simp [World.passes] at hp

/-- After passes of which the last wants nothing, nothing is alive. -/
theorem Owns.alive_foldl_none {r : Record Connection (IdMap HeldInstance) InstanceView} (hr : Owns r.stock)
    (factory : Factory Connection) (earlier : List (Option (List Instance))) :
    ((earlier ++ [none]).foldl (Record.pass trade factory) r).ledger.alive = [] := by
  have hs : Owns (earlier.foldl (Record.pass trade factory) r).stock :=
    Record.foldl_keeps trade factory (I := fun r => Owns r.stock)
      (fun _ wanted h => h.record_pass factory wanted) hr earlier
  rw [List.foldl_append]
  exact hs.alive_pass_none factory

/-- **Every handle is accounted for**, whatever the factory answers and in every run: what is alive
is what is held, one handle for one id; a handle is given back at most once, and only after it was
made; a request is only ever made for an id that holds nothing; and a pass of a stopped engine or a
shutdown leaves nothing alive. -/
theorem run_accounts_for_handles (factory : Factory Connection) (source : Watch (List Instance))
    (moves : List (Move (List Instance))) :
    let w := World.run trade factory moves (.create trade source)
    let held := w.engine.held
    let ledger := w.engine.ledger
    (∀ h, h ∈ ledger.alive ↔ ∃ id, Holds held id h) ∧
      (∀ id id' h, Holds held id h → Holds held id' h → id = id') ∧
      ledger.alive.Nodup ∧ ledger.created.Nodup ∧ ledger.destroyed.Nodup ∧
      (∀ before h after, ledger.calls = before ++ .destroy h :: after →
        h ∈ (⟨before⟩ : Ledger Connection).created) ∧
      (∀ wanted before i after, (planOf wanted held).create = before ++ i :: after →
        (before.foldl (build factory) (cleared wanted (held, ledger))).1.get? i.id = none) ∧
      (∀ m, w.engine.isStarted = false → w.passes m ≠ [] →
        (w.step trade factory m).engine.ledger.alive = []) ∧
      (w.step trade factory .shutdown).engine.ledger.alive = [] := by
  intro w held ledger
  have hw : Owns w.engine.record.stock := owns_run factory source moves
  refine ⟨hw.alive_iff, fun _ _ _ => hw.one_id, hw.sound.alive_nodup, hw.sound.created_nodup, hw.sound.once,
    fun before h after hc => (Ledger.mem_alive_iff.1 (hw.sound.timely before h after hc)).1,
    fun wanted before i after hp => get?_create_free factory (held, ledger) hp, fun m hs hm => ?_, ?_⟩
  · obtain ⟨earlier, last, hp⟩ := (List.eq_nil_or_concat (w.passes m)).resolve_left hm
    have hlast : last = none := passes_of_stopped hs m last (by simp [hp])
    have hr := World.record_step trade factory w m
    rw [hp, hlast, List.concat_eq_append] at hr
    exact (congrArg (·.ledger.alive) hr).trans (Owns.alive_foldl_none hw factory earlier)
  · have hr := World.record_step trade factory w .shutdown
    exact (congrArg (·.ledger.alive) hr).trans (Owns.alive_foldl_none hw factory _)

end ProxyKeeper.InstanceEngine

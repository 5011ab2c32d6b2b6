/-
An engine whose source of snapshots is gone. The flag can still be changed,
and it depends on the task whether anyone hears of it. A task that has not
been let run since then asks for the flag before it asks for the source, so
it still runs the pass that the flag calls for. But it also notices that the
source is gone, and from then on it waits for nothing but its end.

`Listens.stop` and `Listens.start` are the first half, `record_of_holding` is the
second, and `Engine.task_settle_of_closed` is where the one ends and the
other begins.
-/
import ProxyKeeper.Proofs.Engine.Handles
import ProxyKeeper.Proofs.Engine.SingleHandle
import ProxyKeeper.Proofs.Engine.Toggle

namespace ProxyKeeper

variable {S P H V : Type}

/-! ## a task beside a source that is gone -/

namespace Engine

variable (trade : Trade S P H V) (factory : Factory P) {source : Watch S} {e : Engine S P H V}

/-- Once it is let run, a task whose source is gone waits for its end alone. -/
theorem task_settle_of_closed (hclosed : source.live = false) (ht : e.task ≠ .absent) :
    (e.settle trade factory source).task = .holding := by
  have after : (e.passAndWait trade factory source).task = .holding := by
    rw [passAndWait, hclosed]
    rfl
  cases he : e.task with
  | absent => exact absurd he ht
  | ready => simpa only [settle, he] using after
  | holding => simp only [settle, he]
  | waiting started seen =>
    simp only [settle, he]
    split
    · exact after
    · exact after
    · rfl
    · rename_i hn _
      -- Nothing is pending from a publisher that is gone.
      rw [Watch.notice, hclosed] at hn
      split at hn <;> cases hn

end Engine

namespace World

variable {trade : Trade S P H V} {factory : Factory P} {blank : Record P H V → Prop} {w : World S P H V}

/-! ## a flag that is not heard -/

/-- A task that waits for its end alone runs no pass: only who asks for one directly, or ends the engine, gets one. -/
theorem holding_stays (trade : Trade S P H V) (factory : Factory P) (hh : w.engine.task = .holding) {m : Move S}
    (hreconcile : ∀ snapshot, m ≠ .reconcile snapshot) (hshutdown : m ≠ .shutdown) :
    (w.step trade factory m).engine.task = .holding ∧ (w.step trade factory m).engine.record = w.engine.record := by
  have settled : w.engine.settle trade factory w.source = w.engine := by simp only [Engine.settle, hh]
  constructor
  · by_cases hm : m = .settle
    · rw [hm, World.step, settled]
      exact hh
    · rcases task_step trade factory w hm hshutdown with ht | ⟨ha, -⟩
      · exact ht.trans hh
      · cases hh.symm.trans ha
  · rw [record_step]
    cases m with
    | reconcile snapshot => exact absurd rfl (hreconcile snapshot)
    | shutdown => exact absurd rfl hshutdown
    | settle => simp only [passes, Engine.isDue, hh]; rfl
    | start | stop | spawn | publish | closeSource => rfl

theorem record_of_holding (hh : w.engine.task = .holding) {later : List (Move S)}
    (hreconcile : ∀ snapshot, .reconcile snapshot ∉ later) (hshutdown : .shutdown ∉ later) :
    (run trade factory later w).engine.record = w.engine.record := by
  induction later generalizing w with
  | nil => rfl
  | cons m rest ih =>
    obtain ⟨ht, hr⟩ := holding_stays trade factory hh
      (fun snapshot hm => hreconcile snapshot (hm ▸ List.mem_cons_self)) fun hm => hshutdown (hm ▸ List.mem_cons_self)
    rw [run, List.foldl_cons, ← run, ← hr]
    exact ih ht (fun snapshot hm => hreconcile snapshot (List.mem_cons_of_mem _ hm))
      fun hm => hshutdown (List.mem_cons_of_mem _ hm)

/-! ## both engines -/

/-- What is so of an engine with a task whose source of snapshots is gone; `blank` says that nothing is left. -/
structure Orphaned (trade : Trade S P H V) (factory : Factory P) (blank : Record P H V → Prop)
    (w : World S P H V) : Prop where
  /-- When it is let run the task notices that the source is gone. -/
  notices : (w.step trade factory .settle).engine.task = .holding
  /-- A stop leaves nothing exactly if it comes before that, or nothing was left already. -/
  stop_iff : blank (run trade factory [.stop, .settle] w).engine.record ↔
    w.engine.task ≠ .holding ∨ blank w.engine.record
  /-- A start is followed by a pass for the last snapshot exactly if it comes before that. -/
  start_iff : w.engine.isStarted = false →
    ((run trade factory [.start, .settle] w).engine.record =
      w.engine.record.pass trade factory (some w.source.value) ↔ w.engine.task ≠ .holding)
  /-- Afterwards nothing that is done to the flag, or else but by asking for a pass, changes what is held, the calls or
  the view. -/
  deaf : w.engine.task = .holding → ∀ later, (∀ snapshot, .reconcile snapshot ∉ later) → .shutdown ∉ later →
    (run trade factory later w).engine.record = w.engine.record

/-- Every engine is so in every run, if a pass of it for nothing leaves nothing. -/
theorem Orphaned.of_keeps {I : Record P H V → Prop} (initial : I (.initial trade))
    (pass : ∀ r wanted, I r → I (r.pass trade factory wanted))
    (clear : ∀ r, I r → blank (r.pass trade factory none)) (source : Watch S) (moves : List (Move S))
    (ht : (run trade factory moves (create trade source)).engine.task ≠ .absent)
    (hclosed : (run trade factory moves (create trade source)).source.live = false) :
    Orphaned trade factory blank (run trade factory moves (create trade source)) := by
  have hw := record_induction trade factory initial pass source moves
  have heard : (run trade factory moves (create trade source)).Heard blank :=
    heard_run (w := create trade source) pass clear initial (fun started seen ht => by cases ht) moves
  generalize run trade factory moves (create trade source) = w at *
  have deaf : ∀ m, m = .stop ∨ m = .start → w.engine.task = .holding →
      (run trade factory [m, .settle] w).engine.record = w.engine.record := by
    rintro m (rfl | rfl) hh <;> exact record_of_holding hh (by simp) (by simp)
  refine ⟨Engine.task_settle_of_closed trade factory hclosed ht, ?_, fun hs => ?_, fun hh _ => record_of_holding hh⟩
  · by_cases hh : w.engine.task = .holding
    · simp [deaf .stop (.inl rfl) hh, hh]
    · exact iff_of_true (Listens.stop ⟨ht, hh, heard⟩ (clear _ hw)) (.inl hh)
  · by_cases hh : w.engine.task = .holding
    · refine iff_of_false (fun hr => ?_) (fun hne => hne hh)
      -- A pass would have counted.
      rw [deaf .start (.inr rfl) hh] at hr
      exact absurd (congrArg Record.generation hr) (Nat.ne_of_lt (Nat.lt_succ_self _))
    · exact iff_of_true (Listens.start ⟨ht, hh, heard⟩ hs) hh

/-- **The flag after the source is gone**, for either engine with a task, in every run. Up to the time when the task
notices that the source is gone the flag is honoured: a stop leaves no handle and an empty view, and the start of a
stopped engine is followed by a pass for the last snapshot. The task notices it as soon as it is let run, and from
then on a change of the flag has no effect on handles, calls and view. -/
theorem orphan_honours_flag_until_noticed (connections : Factory Connection) (records : Watch (List Instance))
    (moves : List (Move (List Instance))) (selections : Factory ProfileParams) (sets : Watch ProfileSet)
    (moves' : List (Move ProfileSet)) :
    let instances := run InstanceEngine.trade connections moves (create InstanceEngine.trade records)
    let profile := run ProfileEngine.trade selections moves' (create ProfileEngine.trade sets)
    (instances.engine.task ≠ .absent → instances.source.live = false →
      Orphaned InstanceEngine.trade connections (fun r => r.ledger.alive = [] ∧ r.view.value.instances = ∅)
        instances) ∧
    (profile.engine.task ≠ .absent → profile.source.live = false →
      Orphaned ProfileEngine.trade selections
        (fun r => r.ledger.alive = [] ∧ r.view.value.outcome = none ∧ r.view.value.configUsed = none) profile) := by
  refine ⟨fun ht hclosed => ?_, fun ht hclosed => ?_⟩
  · refine .of_keeps (I := fun r => InstanceEngine.Owns r.stock) ?_
      (fun _ wanted h => h.record_pass connections wanted)
      (fun r h => ⟨h.alive_pass_none connections, InstanceEngine.instances_pass_none connections r⟩)
      records moves ht hclosed
    exact InstanceEngine.Owns.empty
  · exact .of_keeps (I := ProfileEngine.Sole) .initial (fun _ wanted h => h.pass selections wanted)
      (fun r h => have after := h.pass selections none
        ⟨after.alive, after.outcome, after.config⟩) sets moves' ht hclosed

/-- A source that goes away while the task waits: a stop is heard that comes before the task is let run. -/
theorem orphan_hears_stop_in_time :
    let records : List Instance := [.create "a" "a" ⟨"relay", 443, ⟨"k"⟩, "127.0.0.1:1080"⟩]
    let set : ProfileSet := { profiles := [.create "a" "a" "http://a.b"], selected := some "a" }
    let early (S : Type) : List (Move S) := [.spawn, .start, .settle, .closeSource]
    let instances := run InstanceEngine.trade ⟨fun _ _ => .ok ()⟩ (early _)
      (create InstanceEngine.trade { value := records })
    let profile := run ProfileEngine.trade ⟨fun _ _ => .ok ()⟩ (early _) (create ProfileEngine.trade { value := set })
    (instances.engine.ledger.alive = [1] ∧
      (run InstanceEngine.trade ⟨fun _ _ => .ok ()⟩ [.stop, .settle] instances).engine.record.ledger.alive = []) ∧
    profile.engine.ledger.alive = [1] ∧
      (run ProfileEngine.trade ⟨fun _ _ => .ok ()⟩ [.stop, .settle] profile).engine.record.ledger.alive = [] := by
  intro records set early instances profile
  obtain ⟨hinstances, hprofile⟩ := orphan_honours_flag_until_noticed ⟨fun _ _ => .ok ()⟩ { value := records } (early _)
    ⟨fun _ _ => .ok ()⟩ { value := set } (early _)
  exact ⟨⟨by decide, ((hinstances (by decide) rfl).stop_iff.2 (.inl (by decide))).1⟩,
    by decide, ((hprofile (by decide) rfl).stop_iff.2 (.inl (by decide))).1⟩

/-- Once the task has noticed that the source is gone, either engine keeps its handle and its view when it is stopped,
and it runs no pass when it is started. -/
theorem flag_unheard_once_noticed :
    let records : List Instance := [.create "a" "a" ⟨"relay", 443, ⟨"k"⟩, "127.0.0.1:1080"⟩]
    let set : ProfileSet := { profiles := [.create "a" "a" "http://a.b"], selected := some "a" }
    let instances (moves : List (Move (List Instance))) :=
      run InstanceEngine.trade ⟨fun _ _ => .ok ()⟩ moves (create InstanceEngine.trade { value := records })
    let profile (moves : List (Move ProfileSet)) :=
      run ProfileEngine.trade ⟨fun _ _ => .ok ()⟩ moves (create ProfileEngine.trade { value := set })
    let running (S : Type) : List (Move S) := [.spawn, .start, .settle, .closeSource, .settle]
    let idle (S : Type) : List (Move S) := [.spawn, .settle, .closeSource, .settle]
    ((instances (running _)).engine.task ≠ .absent ∧ (instances (running _)).source.live = false ∧
      (instances (running _ ++ [.stop, .settle])).engine.isStarted = false ∧
      (instances (running _ ++ [.stop, .settle])).engine.ledger.alive = [1] ∧
      (instances (running _ ++ [.stop, .settle])).engine.view.value.instances ≠ ∅) ∧
    ((instances (idle _)).engine.isStarted = false ∧ (instances (idle _)).source.live = false ∧
      (instances (idle _ ++ [.start, .settle])).engine.isStarted = true ∧
      (instances (idle _ ++ [.start, .settle])).engine.view.value = (instances (idle _)).engine.view.value ∧
      ((instances (idle _)).engine.record.pass InstanceEngine.trade ⟨fun _ _ => .ok ()⟩ (some records)).view.value ≠
        (instances (idle _)).engine.view.value) ∧
    (profile (running _)).engine.task ≠ .absent ∧ (profile (running _)).source.live = false ∧
      (profile (running _ ++ [.stop, .settle])).engine.isStarted = false ∧
      (profile (running _ ++ [.stop, .settle])).engine.ledger.alive = [1] ∧
      (profile (running _ ++ [.stop, .settle])).engine.view.value.outcome = some .running := by
  decide

end World

end ProxyKeeper

/-
An engine of instances that is stopped and started again, and the attempts
that failed before. A failed attempt is carried over from pass to pass while
it is wanted as it is. It is forgotten by a pass that wants nothing, and
there is one if the engine is let run while it is stopped, or asked directly
(`Rested`). Then what is wanted afterwards is requested anew
(`create_mem_of_forgotten`).

Stopping and starting tell the task only that the flag changed. If it is not
let run in between, it finds the flag as it was and runs one pass, which
carries the failed attempts over.
-/
import ProxyKeeper.Proofs.Engine.Churn
import ProxyKeeper.Proofs.Engine.Toggle

namespace ProxyKeeper

variable {S P H V : Type}

/-- What is done to a stopped engine has it run a pass. -/
def Move.Rested (between : List (Move S)) : Prop :=
  .settle ∈ between ∨ ∃ snapshot, .reconcile snapshot ∈ between

/-! ## the passes of a stop and a start -/

namespace World

variable {trade : Trade S P H V} {factory : Factory P} {blank : Record P H V → Prop} {w : World S P H V}

theorem mem_passesOf {p : Option S} {a b : List (Move S)} {m : Move S}
    (h : p ∈ (run trade factory a w).passes m) : p ∈ passesOf trade factory (a ++ m :: b) w := by
  rw [passesOf_append, passesOf, List.mem_append, List.mem_append]
  exact .inr (.inl h)

theorem passesOf_eq_nil {group : List (Move S)} (h : ¬ Move.Rested group) (hshutdown : .shutdown ∉ group) :
    passesOf trade factory group w = [] := by
  induction group generalizing w with
  | nil => rfl
  | cons m rest ih =>
    have hm : w.passes m = [] := by
      cases m with
      | settle => exact absurd (.inl List.mem_cons_self) h
      | reconcile snapshot => exact absurd (.inr ⟨snapshot, List.mem_cons_self⟩) h
      | shutdown => exact absurd List.mem_cons_self hshutdown
      | start | stop | spawn | publish | closeSource => rfl
    rw [passesOf, hm, List.nil_append]
    refine ih (fun hr => h ?_) (mt (List.mem_cons_of_mem _) hshutdown)
    exact hr.imp (List.mem_cons_of_mem _) (Exists.imp fun _ => List.mem_cons_of_mem _)

theorem isStarted_run_of_stop {group : List (Move S)} (hstart : .start ∉ group) :
    (run trade factory (.stop :: group) w).engine.isStarted = false := by
  rw [isStarted_run, List.foldl_cons]
  exact Move.foldl_flagAfter_false hstart

/-- Letting the task run changes nothing of what is wanted. -/
theorem wanted_settle (trade : Trade S P H V) (factory : Factory P) (w : World S P H V) :
    (w.step trade factory .settle).engine.wanted (w.step trade factory .settle).source.value =
      w.engine.wanted w.source.value := by
  have hf := (Engine.settle_frame trade factory w.source w.engine).1
  rw [Engine.wanted, Engine.wanted, Engine.isStarted, Engine.isStarted]
  simp only [step, hf]

/-- If a stopped engine runs a pass, it is one for nothing. -/
theorem Listens.none_mem_passesOf (h : w.Listens blank) (hs : w.engine.isStarted = true) {between : List (Move S)}
    (hstart : .start ∉ between) (hshutdown : .shutdown ∉ between) (hrest : Move.Rested between) :
    none ∈ passesOf trade factory (.stop :: between) w := by
  have stopped : ∀ a b, between = a ++ b → (run trade factory (.stop :: a) w).engine.isStarted = false := by
    rintro a b rfl
    exact isStarted_run_of_stop (mt (List.mem_append_left _) hstart)
  rcases hrest with hsettle | ⟨snapshot, hreconcile⟩
  · -- The first time that the task is let run it has yet to hear of the stop.
    obtain ⟨a, b, rfl, ha⟩ := List.eq_append_cons_of_mem hsettle
    have hdue : (run trade factory (.stop :: a) w).engine.isDue (run trade factory (.stop :: a) w).source = true := by
      refine h.isDue_run trade factory _ ?_ ?_ ?_
      · simpa using ha
      · simpa using mt (List.mem_append_left _) hshutdown
      · simp only [Move.flagChanges, Move.flagAfter, hs, Bool.false_eq_true, if_false]
        omega
    refine mem_passesOf (a := .stop :: a) ?_
    rw [passes, if_pos hdue, Engine.wanted, stopped a _ rfl]
    exact List.mem_singleton_self _
  · obtain ⟨a, b, rfl⟩ := List.append_of_mem hreconcile
    refine mem_passesOf (a := .stop :: a) ?_
    rw [passes, Engine.wanted, stopped a _ rfl]
    exact List.mem_singleton_self _

/-- A task that is let run after a stopped engine was started runs a pass. -/
theorem Listens.passes_settle_of_start (h : w.Listens blank) (hs : w.engine.isStarted = false)
    {later : List (Move S)} (hsettle : .settle ∉ later) (hshutdown : .shutdown ∉ later) :
    (run trade factory (.start :: later) w).passes .settle =
      [(run trade factory (.start :: later) w).engine.wanted (run trade factory (.start :: later) w).source.value] := by
  rw [passes, if_pos]
  refine h.isDue_run trade factory _ (by simpa using hsettle) (by simpa using hshutdown) ?_
  simp only [Move.flagChanges, Move.flagAfter, hs, Bool.true_eq_false, if_false]
  omega

/-- The passes of an engine that is stopped, started again and let run: the last is one for what is wanted then, one
before it was for nothing if the engine had a rest, and if nobody asked for any other there is none before it. -/
theorem passesOf_restart (source : Watch S) (earlier between later : List (Move S)) (hstart : .start ∉ between)
    (hsettle : .settle ∉ later) :
    let before := run trade factory earlier (create trade source)
    let moves := .stop :: between ++ .start :: later ++ [.settle]
    let after := run trade factory moves before
    before.engine.task ≠ .absent → before.engine.isStarted = true →
    after.source.live = true → after.engine.cancelled = false →
    ∃ done, passesOf trade factory moves before = done ++ [after.engine.wanted after.source.value] ∧
      (Move.Rested between → none ∈ done) ∧ (¬ Move.Rested between → ¬ Move.Rested later → done = []) := by
  intro before moves after ht hs hlive hcancelled
  let stopped := run trade factory (.stop :: between) before
  let started := run trade factory (.start :: later) stopped
  have hmoves : moves = .stop :: between ++ (.start :: later ++ [.settle]) := by simp [moves]
  have hshutdown : .shutdown ∉ moves := cancelled_run hcancelled
  simp only [hmoves, List.mem_append, List.mem_cons, not_or] at hshutdown
  obtain ⟨⟨-, hbetween⟩, ⟨-, hlater⟩, -⟩ := hshutdown
  have hafter : after = started.step trade factory .settle := by
    simp only [after, hmoves, run_append]
    rfl
  -- The source is open all the time, so the task listens at the stop and at the start.
  have hstopped : stopped = run trade factory (earlier ++ .stop :: between) (create trade source) :=
    (run_append ..).symm
  have hl : stopped.source.live = true := by
    have h : started.source.live = true := by rwa [hafter] at hlive
    exact (source_run trade factory h).1
  have hbefore : before.Listens fun _ => True := listens_run ht (source_run trade factory hl).1
  have ht' : stopped.engine.task ≠ .absent := task_ne_absent_run (by simpa using hbetween) ht
  have listens : stopped.Listens fun _ => True := by
    rw [hstopped] at hl ht' ⊢
    exact listens_run ht' hl
  have hlast : started.passes .settle = [after.engine.wanted after.source.value] := by
    rw [hafter, wanted_settle]
    exact listens.passes_settle_of_start (isStarted_run_of_stop hstart) hsettle hlater
  refine ⟨passesOf trade factory (.stop :: between) before ++ passesOf trade factory (.start :: later) stopped,
    ?_, fun hrest => ?_, fun hrest hrest' => ?_⟩
  · rw [hmoves, passesOf_append, passesOf_append, ← hlast, List.append_assoc]
    simp only [passesOf, List.append_nil]
    rfl
  · exact List.mem_append_left _ (hbefore.none_mem_passesOf hs hstart hbetween hrest)
  · rw [passesOf, passesOf, passesOf_eq_nil hrest hbetween, passesOf_eq_nil hrest' hlater]
    rfl

end World

namespace InstanceEngine

/-! ## requests after nothing was wanted -/

variable (factory : Factory Connection)

theorem passesLog_append (a b : List (Option (List Instance)))
    (r : Record Connection (IdMap HeldInstance) InstanceView) :
    passesLog factory (a ++ b) r.stock =
      passesLog factory a r.stock ++ passesLog factory b (a.foldl (Record.pass trade factory) r).stock := by
  induction a generalizing r with
  | nil => rfl
  | cons wanted rest ih =>
    have hp := ih (r.pass trade factory wanted)
    rw [List.cons_append, passesLog, passesLog, List.append_assoc]
    exact congrArg _ hp

theorem create_mem_of_lastRequest {id : String} {log : Log} {entry : HeldInstance}
    (h : lastRequest id log = some entry) : (id, .create entry.fingerprint entry.resource) ∈ log := by
  obtain ⟨⟨x, call⟩, hm, hr⟩ := List.exists_of_findSome?_eq_some h
  cases call with
  | destroy handle => cases hr
  | create params outcome =>
    rw [request?] at hr
    split at hr
    · rename_i hx
      cases hr
      exact hx ▸ List.mem_reverse.1 hm
    · cases hr

/-- What is held after passes of which one wanted nothing was requested since that one. -/
theorem create_mem_of_forgotten {passes : List (Option (List Instance))} (hnone : none ∈ passes)
    {r : Record Connection (IdMap HeldInstance) InstanceView} {id : String} {entry : HeldInstance}
    (he : (passes.foldl (Record.pass trade factory) r).held.get? id = some entry) :
    (id, .create entry.fingerprint entry.resource) ∈ passesLog factory passes r.stock := by
  obtain ⟨done, rest, rfl⟩ := List.append_of_mem hnone
  rw [List.append_cons] at he ⊢
  have nothing : Answered ((done ++ [none]).foldl (Record.pass trade factory) r).held [] := by
    intro x entry hx
    rw [List.foldl_append] at hx
    cases (pass_none_held factory _ x).symm.trans hx
  rw [List.foldl_append] at he
  rw [passesLog_append]
  exact List.mem_append_right _ (create_mem_of_lastRequest (nothing.passes rest id entry he))

/-! ## views -/

theorem instances_run (source : Watch (List Instance)) (moves : List (Move (List Instance))) :
    let w := World.run trade factory moves (.create trade source)
    w.engine.view.value.instances = w.engine.held.map HeldInstance.status :=
  World.record_induction (I := fun r => r.view.value.instances = r.held.map HeldInstance.status) trade factory rfl
    (fun _ _ _ => rfl) source moves

theorem held_of_failed {held : IdMap HeldInstance} {id : String} {c : Connection} {message : String}
    (h : (held.map HeldInstance.status).get? id = some ⟨c, .failed message⟩) :
    held.get? id = some ⟨c, .error message⟩ := by
  obtain ⟨⟨fingerprint, resource⟩, he, hs⟩ := Option.map_eq_some_iff.1 ((IdMap.get?_map _ _ _).symm.trans h)
  cases resource with
  | ok handle => cases hs
  | error text =>
    cases hs
    exact he

/-! ## every run -/

/-- **A rest between stop and start makes failures be retried.** Let a started engine with a task be stopped and later
be started again, with whatever else in between and afterwards, and let the task settle, beside an open source and
without a shutdown. If a pass was run while the engine was stopped, then every attempt that the view showed as failed,
and that is still wanted with the same connection, was made again. If none was, nor one asked for afterwards, then no
call was made for it, and the view shows the same failure. -/
theorem rest_retries_failures (source : Watch (List Instance)) (earlier between later : List (Move (List Instance)))
    (hstart : .start ∉ between) (hsettle : .settle ∉ later) :
    let before := World.run trade factory earlier (.create trade source)
    let moves := .stop :: between ++ .start :: later ++ [.settle]
    let after := World.run trade factory moves before
    let log := passesLog factory (World.passesOf trade factory moves before) before.engine.record.stock
    let desired := (after.engine.wanted after.source.value).getD []
    before.engine.task ≠ .absent → before.engine.isStarted = true →
    after.source.live = true → after.engine.cancelled = false →
    after.engine.ledger.calls = before.engine.ledger.calls ++ log.map (·.2) ∧
      ∀ id c message, before.engine.view.value.instances.get? id = some ⟨c, .failed message⟩ →
        Plan.connectionFor desired id = some c →
        (Move.Rested between → ∃ outcome, (id, .create c outcome) ∈ log) ∧
        (¬ Move.Rested between → ¬ Move.Rested later →
          callsFor id log = [] ∧ after.engine.view.value.instances.get? id = some ⟨c, .failed message⟩) := by
  intro before moves after log desired ht hs hlive hcancelled
  obtain ⟨done, hpasses, hnone, hsingle⟩ :=
    World.passesOf_restart source earlier between later hstart hsettle ht hs hlive hcancelled
  have hrecord : after.engine.record = (done ++ [after.engine.wanted after.source.value]).foldl
      (Record.pass trade factory) before.engine.record := by
    rw [← hpasses]
    exact World.record_run trade factory moves before
  refine ⟨?_, fun id c message hfailed hwanted => ⟨fun hrest => ?_, fun hrest hrest' => ?_⟩⟩
  · have hcalls := calls_passes factory (World.passesOf trade factory moves before) before.engine.record
    rw [← World.record_run] at hcalls
    exact hcalls
  · have hf := fingerprint_pass factory (after.engine.wanted after.source.value)
      (done.foldl (Record.pass trade factory) before.engine.record).stock id
    obtain ⟨entry, he, rfl⟩ := Option.map_eq_some_iff.1 (hf.trans hwanted)
    refine ⟨entry.resource, ?_⟩
    show (id, _) ∈ passesLog factory (World.passesOf trade factory moves before) before.engine.record.stock
    rw [hpasses]
    refine create_mem_of_forgotten factory (List.mem_append_left _ (hnone hrest)) ?_
    rw [List.foldl_append]
    exact he
  · rw [hsingle hrest hrest', List.nil_append] at hpasses hrecord
    have hview : before.engine.view.value.instances = before.engine.held.map HeldInstance.status :=
      instances_run factory source earlier
    have hheld : before.engine.record.stock.1.get? id = some ⟨c, .error message⟩ := held_of_failed (hview ▸ hfailed)
    refine ⟨?_, ?_⟩
    · obtain ⟨outcome, ho⟩ :=
        callsFor_passLog factory (after.engine.wanted after.source.value) before.engine.record.stock id
      show callsFor id (passesLog factory (World.passesOf trade factory moves before) _) = []
      rw [hpasses, passesLog, passesLog, List.append_nil, ho, if_pos]
      rw [hheld]
      exact hwanted
    · have hafter : after.engine.view.value.instances =
          (pass factory (after.engine.wanted after.source.value) before.engine.record.stock).1.map
            HeldInstance.status := congrArg (·.view.value.instances) hrecord
      rw [hafter, IdMap.get?_map, get?_pass_kept hheld hwanted]
      rfl

/-- A task that is let run between stop and start has a failed attempt made again. -/
theorem failure_retried_after_rest :
    let c : Connection := ⟨"relay", 443, ⟨"k"⟩, "127.0.0.1:1080"⟩
    let down : Factory Connection := ⟨fun _ _ => .error "down"⟩
    let before := World.run trade down [.spawn, .start, .settle] (.create trade { value := [.create "a" "a" c] })
    let moves := [.stop, .settle, .start, .settle]
    before.engine.view.value.instances.get? "a" = some ⟨c, .failed "down"⟩ ∧
      ∃ outcome, ("a", .create c outcome) ∈
        passesLog down (World.passesOf trade down moves before) before.engine.record.stock := by
  intro c down before moves
  have hfailed : before.engine.view.value.instances.get? "a" = some ⟨c, .failed "down"⟩ := by decide
  have hretried := (rest_retries_failures down { value := [.create "a" "a" c] } [.spawn, .start, .settle]
    [.settle] [] (by simp) (by simp) (by decide) (by decide) (by decide) (by decide)).2 "a" c "down" hfailed (by decide)
  exact ⟨hfailed, hretried.1 (.inl List.mem_cons_self)⟩

/-- Without such a rest a settled engine whose attempt failed is stopped, started and settles again, and the attempt,
still wanted as it was, is not made again. -/
theorem failure_kept_without_rest :
    let c : Connection := ⟨"relay", 443, ⟨"k"⟩, "127.0.0.1:1080"⟩
    let down : Factory Connection := ⟨fun _ _ => .error "down"⟩
    let before := World.run trade down [.spawn, .start, .settle] (.create trade { value := [.create "a" "a" c] })
    let moves := [.stop, .start, .settle]
    let after := World.run trade down moves before
    before.Settled ∧ before.engine.task ≠ .absent ∧ before.engine.isStarted = true ∧ before.source.live = true ∧
      before.engine.view.value.instances.get? "a" = some ⟨c, .failed "down"⟩ ∧
      after.engine.isStarted = true ∧ Plan.connectionFor after.source.value "a" = some c ∧
      after.engine.record.generation = before.engine.record.generation + 1 ∧
      passesLog down (World.passesOf trade down moves before) before.engine.record.stock = [] ∧
      after.engine.ledger.calls.length = before.engine.ledger.calls.length := by
  refine ⟨⟨rfl, rfl⟩, ?_⟩
  decide

end InstanceEngine

end ProxyKeeper

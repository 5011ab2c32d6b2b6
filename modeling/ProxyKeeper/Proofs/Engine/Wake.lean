/-
When the background task runs a pass. Letting it run (`settle`) is the only
way in which it does anything, so between two such points moves only pile up:
publications in the version of the source, changes of the flag in the
version of the flag.

`Settled` is where the task is left: it waits and has seen both versions.
From there the two versions tell exactly whether anything happened since
(`started_run`, `source_run`), which is what the task asks (`isDue_run`).
`Current` is the invariant behind the view: if neither version has moved
past what the task has seen, the last pass was one for the latest snapshot
and flag.
-/
import ProxyKeeper.Engine.Profile
import ProxyKeeper.Proofs.Engine.Run

namespace ProxyKeeper

variable {S P H V : Type}

/-- The flag of an engine after a move. -/
def Move.flagAfter (flag : Bool) : Move S → Bool
  | .start => true
  | .stop | .shutdown => false
  | .reconcile _ | .spawn | .publish _ | .closeSource | .settle => flag

/-- The latest snapshot after a move. -/
def Move.snapshotAfter (latest : S) : Move S → S
  | .publish snapshot => snapshot
  | .start | .stop | .reconcile _ | .spawn | .closeSource | .settle | .shutdown => latest

/-- What moves leave to be wanted of a new engine: the latest snapshot while it is started, else nothing. -/
def Move.wantedAfter (snapshot : S) (moves : List (Move S)) : Option S :=
  if moves.foldl flagAfter false then some (moves.foldl snapshotAfter snapshot) else none

/-- How often moves really change the flag of an engine, from a flag on. -/
def Move.flagChanges : Bool → List (Move S) → Nat
  | _, [] => 0
  | flag, m :: rest => (if m.flagAfter flag = flag then 0 else 1) + flagChanges (m.flagAfter flag) rest

/-- How many snapshots moves publish. -/
def Move.publications : List (Move S) → Nat
  | [] => 0
  | .publish _ :: rest => publications rest + 1
  | _ :: rest => publications rest

theorem Move.publications_pos_iff {moves : List (Move S)} :
    0 < publications moves ↔ ∃ snapshot, .publish snapshot ∈ moves := by
  induction moves with
  | nil => simp [publications]
  | cons m rest ih => cases m <;> simp_all [publications]

namespace Engine

variable (trade : Trade S P H V) (factory : Factory P) (source : Watch S) (e : Engine S P H V)

/-- A waiting task has nothing to do when it has seen both versions. -/
theorem isDue_waiting_eq_false_iff {started seen : Watcher} (ht : e.task = .waiting started seen) :
    e.isDue source = false ↔ started.seen = e.started.version ∧ seen.seen = source.version := by
  simp only [isDue, ht, Bool.or_eq_false_iff, decide_eq_false_iff_not, Watch.notice_eq_changed_iff, ne_eq,
    Decidable.not_not]
  exact ⟨fun h => ⟨h.1.symm, h.2.symm⟩, fun h => ⟨h.1.symm, h.2.symm⟩⟩

theorem version_setStarted (value : Bool) :
    (e.setStarted value).started.version = e.started.version + if e.isStarted = value then 0 else 1 := by
  rw [setStarted, isStarted]
  split <;> rfl

@[simp] theorem isStarted_setStarted (value : Bool) : (e.setStarted value).isStarted = value := by
  rw [setStarted]
  split
  · assumption
  · rfl

@[simp] theorem task_setStarted (value : Bool) : (e.setStarted value).task = e.task := by
  rw [setStarted]; split <;> rfl

@[simp] theorem cancelled_setStarted (value : Bool) : (e.setStarted value).cancelled = e.cancelled := by
  rw [setStarted]; split <;> rfl

@[simp] theorem started_spawn : e.spawn.1.started = e.started := by
  rw [spawn]; split
  · rfl
  · split <;> rfl

/-- Letting the task run changes neither the flag nor whether the engine was shut down. -/
theorem settle_frame :
    (e.settle trade factory source).started = e.started ∧
      (e.settle trade factory source).cancelled = e.cancelled := by
  rcases settle_cases trade factory source e with ⟨-, h⟩ | ⟨-, h | ⟨-, h⟩⟩ <;> rw [h] <;> exact ⟨rfl, rfl⟩

theorem task_spawn :
    e.spawn.1.task = e.task ∨ e.task = .absent ∧ e.cancelled = false ∧ e.spawn.1.task = .ready := by
  rw [spawn]
  split
  · exact .inl rfl
  · rename_i ht
    split
    · exact .inl rfl
    · rename_i hc
      exact .inr ⟨by simpa using ht, by simpa using hc, rfl⟩

@[simp] theorem cancelled_spawn : e.spawn.1.cancelled = e.cancelled := by
  rw [spawn]; split
  · rfl
  · split <;> rfl

end Engine

namespace World

variable (trade : Trade S P H V) (factory : Factory P)

/-! ## versions -/

theorem started_step (w : World S P H V) (m : Move S) :
    (w.step trade factory m).engine.isStarted = m.flagAfter w.engine.isStarted ∧
      (w.step trade factory m).engine.started.version =
        w.engine.started.version + if m.flagAfter w.engine.isStarted = w.engine.isStarted then 0 else 1 := by
  have set : ∀ (e : Engine S P H V) (value : Bool), e.started = w.engine.started →
      (e.setStarted value).isStarted = value ∧ (e.setStarted value).started.version =
        w.engine.started.version + if value = w.engine.isStarted then 0 else 1 := by
    intro e value he
    refine ⟨e.isStarted_setStarted value, ?_⟩
    rw [e.version_setStarted, Engine.isStarted, Engine.isStarted, he]
    simp only [eq_comm]
  cases m with
  | start => exact set w.engine true rfl
  | stop => exact set w.engine false rfl
  | shutdown =>
    simp only [step, Engine.shutdown, Move.flagAfter]
    split
    · exact set _ false rfl
    · exact set _ false rfl
  | spawn => simp [step, Move.flagAfter, Engine.isStarted]
  | settle =>
    have hf := (Engine.settle_frame trade factory w.source w.engine).1
    simp [step, Move.flagAfter, Engine.isStarted, hf]
  | publish snapshot => rw [step]; split <;> simp [Move.flagAfter]
  | reconcile snapshot => simp [step, Move.flagAfter]; exact ⟨rfl, rfl⟩
  | closeSource => simp [step, Move.flagAfter]

theorem started_run (moves : List (Move S)) (w : World S P H V) :
    (run trade factory moves w).engine.started.version =
      w.engine.started.version + Move.flagChanges w.engine.isStarted moves := by
  induction moves generalizing w with
  | nil => rfl
  | cons m rest ih =>
    obtain ⟨hflag, hversion⟩ := started_step trade factory w m
    rw [run, List.foldl_cons, ← run, ih, hflag, hversion, Move.flagChanges]
    omega

theorem isStarted_run (moves : List (Move S)) (w : World S P H V) :
    (run trade factory moves w).engine.isStarted = moves.foldl Move.flagAfter w.engine.isStarted := by
  induction moves generalizing w with
  | nil => rfl
  | cons m rest ih =>
    rw [List.foldl_cons, ← (started_step trade factory w m).1]
    exact ih _

theorem source_step {w : World S P H V} {m : Move S} (h : (w.step trade factory m).source.live = true) :
    w.source.live = true ∧
      (w.step trade factory m).source.version = w.source.version + Move.publications [m] ∧
      (w.step trade factory m).source.value = m.snapshotAfter w.source.value := by
  cases m with
  | publish snapshot =>
    rw [step] at h ⊢
    split at h <;> simp_all [Move.publications, Move.snapshotAfter]
  | closeSource => simp [step, Watch.close] at h
  | start | stop | reconcile | spawn | settle | shutdown => exact ⟨h, rfl, rfl⟩

theorem publications_cons (m : Move S) (rest : List (Move S)) :
    Move.publications (m :: rest) = Move.publications [m] + Move.publications rest := by
  cases m <;> simp [Move.publications, Nat.add_comm]

/-- While the publisher is there every publication counts, and the last one is the latest. -/
theorem source_run {moves : List (Move S)} {w : World S P H V}
    (h : (run trade factory moves w).source.live = true) :
    w.source.live = true ∧
      (run trade factory moves w).source.version = w.source.version + Move.publications moves ∧
      (run trade factory moves w).source.value = moves.foldl Move.snapshotAfter w.source.value := by
  induction moves generalizing w with
  | nil => exact ⟨h, rfl, rfl⟩
  | cons m rest ih =>
    obtain ⟨hl, hversion, hvalue⟩ := ih h
    obtain ⟨hl', hversion', hvalue'⟩ := source_step trade factory hl
    refine ⟨hl', ?_, ?_⟩
    · rw [run, List.foldl_cons, ← run, hversion, hversion', publications_cons m rest]
      omega
    · rw [run, List.foldl_cons, ← run, hvalue, hvalue', List.foldl_cons]

/-- What the next pass wants is what the moves made say. -/
theorem wanted_run {moves : List (Move S)} {source : Watch S}
    (h : (run trade factory moves (create trade source)).source.live = true) :
    (run trade factory moves (create trade source)).engine.wanted
        (run trade factory moves (create trade source)).source.value =
      Move.wantedAfter source.value moves := by
  rw [Engine.wanted, isStarted_run, (source_run trade factory h).2.2]
  rfl

/-! ## the task between two settled points -/

/-- The task waits and has seen everything, or there is none. -/
def Settled (w : World S P H V) : Prop :=
  match w.engine.task with
  | .absent | .holding => True
  | .ready => False
  | .waiting started seen => started.seen = w.engine.started.version ∧ seen.seen = w.source.version

theorem settled_settle (w : World S P H V) : (w.step trade factory .settle).Settled := by
  rcases Engine.settle_cases trade factory w.source w.engine with ⟨-, h⟩ | ⟨hd, h | ⟨-, h⟩⟩
  · simp only [Settled, step, h, Engine.passAndWait]
    cases w.source.live with
    | true => exact ⟨rfl, rfl⟩
    | false => trivial
  · simp only [Settled, step, h]
    cases ht : w.engine.task with
    | absent | holding => trivial
    | ready => simp [Engine.isDue, ht] at hd
    | waiting started seen => exact (Engine.isDue_waiting_eq_false_iff _ _ ht).1 hd
  · simp only [Settled, step, h]

theorem isDue_of_settled {w : World S P H V} (hw : w.Settled) : w.engine.isDue w.source = false := by
  rw [Settled] at hw
  cases ht : w.engine.task with
  | absent | holding => simp only [Engine.isDue, ht]
  | ready => simp only [ht] at hw
  | waiting started seen =>
    simp only [ht] at hw
    exact (Engine.isDue_waiting_eq_false_iff _ _ ht).2 hw

/-- Holding on after the source is gone: only then. -/
theorem holding_step {w : World S P H V} (hw : w.engine.task = .holding → w.source.live = false) (m : Move S)
    (h : (w.step trade factory m).engine.task = .holding) : (w.step trade factory m).source.live = false := by
  cases m with
  | start => exact hw ((Engine.task_setStarted w.engine true).symm.trans h)
  | stop => exact hw ((Engine.task_setStarted w.engine false).symm.trans h)
  | reconcile snapshot => exact hw h
  | spawn =>
    rcases Engine.task_spawn w.engine with ht | ⟨-, -, ht⟩
    · exact hw (ht.symm.trans h)
    · cases ht.symm.trans h
  | publish snapshot =>
    rw [step] at h ⊢
    split at h
    · rename_i hl
      exact absurd (hw h) (by simp [hl])
    · rename_i hl
      rw [if_neg hl]
      simpa using hl
  | closeSource => rfl
  | settle =>
    show w.source.live = false
    rcases Engine.settle_cases trade factory w.source w.engine with ⟨-, hs⟩ | ⟨-, hs | ⟨hl, -⟩⟩
    · simp only [step, hs, Engine.passAndWait] at h
      cases hl : w.source.live with
      | true => simp [hl] at h
      | false => rfl
    · exact hw (by simpa only [step, hs] using h)
    · exact hl
  | shutdown =>
    have ht : (w.step trade factory .shutdown).engine.task = .absent := Engine.task_setStarted _ _
    cases ht.symm.trans h

theorem holding_run {w : World S P H V} (hw : w.engine.task = .holding → w.source.live = false)
    (moves : List (Move S)) (h : (run trade factory moves w).engine.task = .holding) :
    (run trade factory moves w).source.live = false := by
  induction moves generalizing w with
  | nil => exact hw h
  | cons m rest ih => exact ih (holding_step trade factory hw m) h

/-- The end of an engine is final, and only a shutdown is the end. -/
theorem cancelled_step {w : World S P H V} {m : Move S}
    (h : (w.step trade factory m).engine.cancelled = false) : w.engine.cancelled = false ∧ m ≠ .shutdown := by
  have hne : m ≠ .shutdown := by
    rintro rfl
    have hc : (w.step trade factory .shutdown).engine.cancelled = true := Engine.cancelled_setStarted _ _
    cases hc.symm.trans h
  refine ⟨?_, hne⟩
  cases m with
  | start => exact (Engine.cancelled_setStarted w.engine true).symm.trans h
  | stop => exact (Engine.cancelled_setStarted w.engine false).symm.trans h
  | spawn => exact (Engine.cancelled_spawn w.engine).symm.trans h
  | publish snapshot =>
    rw [step] at h
    split at h <;> exact h
  | reconcile | closeSource => exact h
  | settle => exact (Engine.settle_frame trade factory w.source w.engine).2.symm.trans h
  | shutdown => exact absurd rfl hne

/-- The task does not move unless it is let run; it may only be spawned. -/
theorem task_step (w : World S P H V) {m : Move S} (hsettle : m ≠ .settle) (hshutdown : m ≠ .shutdown) :
    (w.step trade factory m).engine.task = w.engine.task ∨
      w.engine.task = .absent ∧ (w.step trade factory m).engine.task = .ready := by
  cases m with
  | start | stop => exact .inl (Engine.task_setStarted _ _)
  | reconcile snapshot => exact .inl rfl
  | spawn =>
    rcases Engine.task_spawn w.engine with ht | ⟨ha, -, ht⟩
    · exact .inl ht
    · exact .inr ⟨ha, ht⟩
  | publish snapshot => rw [step]; split <;> exact .inl rfl
  | closeSource => exact .inl rfl
  | settle => exact absurd rfl hsettle
  | shutdown => exact absurd rfl hshutdown

theorem task_run {group : List (Move S)} {w : World S P H V} (hgroup : .settle ∉ group)
    (h : (run trade factory group w).engine.cancelled = false) :
    w.engine.cancelled = false ∧ ((run trade factory group w).engine.task = w.engine.task ∨
      w.engine.task = .absent ∧ (run trade factory group w).engine.task = .ready) := by
  induction group generalizing w with
  | nil => exact ⟨h, .inl rfl⟩
  | cons m rest ih =>
    obtain ⟨hm, hrest⟩ := not_or.mp (mt List.mem_cons.mpr hgroup)
    obtain ⟨hc, ht⟩ := ih hrest h
    obtain ⟨hc, hne⟩ := cancelled_step trade factory hc
    refine ⟨hc, ?_⟩
    rcases task_step trade factory w (Ne.symm hm) hne with hs | ⟨ha, hs⟩
    · rw [← hs]
      exact ht
    · rcases ht with ht | ⟨ha', -⟩
      · exact .inr ⟨ha, ht.trans hs⟩
      · cases hs.symm.trans ha'

/-- Whether moves give the task of a settled engine a pass to run. -/
def Woken (w : World S P H V) (group : List (Move S)) : Prop :=
  w.engine.task = .absent ∨ (∃ snapshot, .publish snapshot ∈ group) ∨
    0 < Move.flagChanges w.engine.isStarted group

/-- The task has a pass to run exactly when something happened since it settled. -/
theorem isDue_run {group : List (Move S)} {w : World S P H V} (hw : w.Settled)
    (hholding : w.engine.task = .holding → w.source.live = false) (hgroup : .settle ∉ group)
    (htask : (run trade factory group w).engine.task ≠ .absent)
    (hlive : (run trade factory group w).source.live = true)
    (hcancelled : (run trade factory group w).engine.cancelled = false) :
    (run trade factory group w).engine.isDue (run trade factory group w).source = true ↔ w.Woken group := by
  obtain ⟨hl, hv, -⟩ := source_run trade factory hlive
  rcases (task_run trade factory hgroup hcancelled).2 with ht | ⟨ha, ht⟩
  · cases hwt : w.engine.task with
    | absent => exact absurd (ht.trans hwt) htask
    | holding => simp [hholding hwt] at hl
    | ready => simp [Settled, hwt] at hw
    | waiting started seen =>
      obtain ⟨hf, hs⟩ : started.seen = w.engine.started.version ∧ seen.seen = w.source.version := by
        simpa only [Settled, hwt] using hw
      have hf' := started_run trade factory group w
      have hd := Engine.isDue_waiting_eq_false_iff (run trade factory group w).source _ (ht.trans hwt)
      rw [hf', hv, hf, hs] at hd
      rw [Woken, hwt, ← Move.publications_pos_iff, ← Bool.not_eq_false, hd]
      simp only [reduceCtorEq, false_or]
      omega
  · simp [Engine.isDue, ht, Woken, ha]

/-! ## what the view is for -/

/-- If the task has seen everything, the last pass was one for the latest snapshot and flag. -/
def Current (w : World S P H V) (last : Option (Option S)) : Prop :=
  ∀ started seen, w.engine.task = .waiting started seen →
    started.seen ≤ w.engine.started.version ∧ seen.seen ≤ w.source.version ∧
      (started.seen = w.engine.started.version → seen.seen = w.source.version →
        last = some (w.engine.wanted w.source.value))

theorem current_step {w : World S P H V} {done : List (Option S)} (h : w.Current done.getLast?) {m : Move S}
    (hm : ∀ snapshot, m ≠ .reconcile snapshot) :
    (w.step trade factory m).Current (done ++ w.passes m).getLast? := by
  -- A real change of the flag moves its version past what the task has seen.
  have set : ∀ value, World.Current { w with engine := w.engine.setStarted value } (done ++ []).getLast? := by
    intro value
    rw [List.append_nil, Engine.setStarted]
    split
    · exact h
    · intro started seen ht
      obtain ⟨hf, hs, -⟩ := h started seen ht
      refine ⟨Nat.le_succ_of_le hf, hs, fun hv => ?_⟩
      rw [Watch.version_publish] at hv
      omega
  cases m with
  | start => exact set true
  | stop => exact set false
  | reconcile snapshot => exact absurd rfl (hm snapshot)
  | spawn =>
    simp only [step, passes, List.append_nil, Engine.spawn]
    split
    · exact h
    · split
      · exact h
      · intro started seen ht
        cases ht
  | publish snapshot =>
    simp only [step, passes, List.append_nil]
    split
    · intro started seen ht
      obtain ⟨hf, hs, -⟩ := h started seen ht
      refine ⟨hf, Nat.le_succ_of_le hs, fun _ hv => ?_⟩
      rw [Watch.version_publish] at hv
      omega
    · exact h
  | closeSource =>
    rw [passes, List.append_nil]
    exact h
  | settle =>
    simp only [step, passes]
    rcases Engine.settle_cases trade factory w.source w.engine with ⟨hd, hs⟩ | ⟨hd, hs | ⟨-, hs⟩⟩
    · rw [hs, hd]
      intro started seen ht
      simp only [Engine.passAndWait] at ht
      split at ht
      · cases ht
        exact ⟨Nat.le_refl _, Nat.le_refl _, fun _ _ => List.getLast?_concat⟩
      · cases ht
    · rw [hs, hd]
      simpa using h
    · rw [hs]
      intro started seen ht
      cases ht
  | shutdown =>
    intro started seen ht
    have ha : (w.step trade factory .shutdown).engine.task = .absent := Engine.task_setStarted _ _
    cases ha.symm.trans ht

theorem current_run {w : World S P H V} {done : List (Option S)} (h : w.Current done.getLast?)
    {moves : List (Move S)} (hmoves : ∀ snapshot, .reconcile snapshot ∉ moves) :
    (run trade factory moves w).Current (done ++ passesOf trade factory moves w).getLast? := by
  induction moves generalizing w done with
  | nil => simpa only [run, passesOf, List.append_nil, List.foldl_nil] using h
  | cons m rest ih =>
    rw [passesOf, ← List.append_assoc]
    refine ih (current_step trade factory h fun snapshot hs => ?_) fun snapshot hs => ?_
    · exact hmoves snapshot (hs ▸ List.mem_cons_self)
    · exact hmoves snapshot (List.mem_cons_of_mem _ hs)

/-! ## letting the task run -/

/-- A waiting task that has nothing to do stays as it is while its source is there. -/
theorem settle_of_not_isDue {w : World S P H V} (hd : w.engine.isDue w.source = false)
    (hlive : w.source.live = true) : w.step trade factory .settle = w := by
  rcases Engine.settle_cases trade factory w.source w.engine with ⟨hd', -⟩ | ⟨-, hs | ⟨hl, -⟩⟩
  · exact absurd (hd'.symm.trans hd) (by decide)
  · rw [step, hs]
  · exact absurd (hl.symm.trans hlive) (by decide)

/-- Once the task of an engine has settled, the last pass was one for the latest snapshot and flag. -/
theorem last_pass_of_settle {w : World S P H V} {done : List (Option S)} (h : w.Current done.getLast?)
    (htask : w.engine.task ≠ .absent) (hholding : w.engine.task ≠ .holding) :
    (done ++ w.passes .settle).getLast? = some (w.engine.wanted w.source.value) := by
  rw [passes]
  cases hd : w.engine.isDue w.source with
  | true => exact List.getLast?_concat
  | false =>
    rw [if_neg (by decide), List.append_nil]
    cases ht : w.engine.task with
    | absent => exact absurd ht htask
    | holding => exact absurd ht hholding
    | ready => simp [Engine.isDue, ht] at hd
    | waiting started seen =>
      obtain ⟨hf, hs⟩ := (Engine.isDue_waiting_eq_false_iff _ _ ht).1 hd
      exact (h started seen ht).2.2 hf hs

/-- **No lost and no spurious wake-up.** Let any moves be made, let the task settle, and make any further
moves, after which the engine has a task that was not shut down and an open source. Then the task runs
exactly one pass if it is new, a snapshot was published or the flag really changed since it settled, and
this pass is for the latest snapshot and flag; otherwise nothing happens. If no pass was asked for
directly, the last pass of the run is one for the latest snapshot and flag either way. -/
theorem settle_passes_iff_woken (source : Watch S) (earlier group : List (Move S)) (hgroup : .settle ∉ group)
    (htask : (run trade factory (earlier ++ .settle :: group) (create trade source)).engine.task ≠ .absent)
    (hlive : (run trade factory (earlier ++ .settle :: group) (create trade source)).source.live = true)
    (hcancelled :
      (run trade factory (earlier ++ .settle :: group) (create trade source)).engine.cancelled = false) :
    let settled := run trade factory (earlier ++ [.settle]) (create trade source)
    let moves := earlier ++ .settle :: group
    let w := run trade factory moves (create trade source)
    (settled.Woken group → w.passes .settle = [Move.wantedAfter source.value moves] ∧
      (w.step trade factory .settle).engine.record =
        w.engine.record.pass trade factory (Move.wantedAfter source.value moves)) ∧
    (¬ settled.Woken group → w.step trade factory .settle = w) ∧
    ((∀ snapshot, .reconcile snapshot ∉ moves) →
      ∃ done : List (Option S),
        passesOf trade factory (moves ++ [.settle]) (create trade source) =
          done ++ [Move.wantedAfter source.value moves] ∧
        (w.step trade factory .settle).engine.record =
          (done.foldl (Record.pass trade factory) (.initial trade)).pass trade factory
            (Move.wantedAfter source.value moves)) := by
  intro settled moves w
  have hw : w = run trade factory group settled := by
    rw [← run_append, List.append_assoc]
    rfl
  have hwanted : w.engine.wanted w.source.value = Move.wantedAfter source.value moves :=
    wanted_run trade factory hlive
  have hnone : (create trade source).engine.task = .holding → (create trade source).source.live = false :=
    fun h => by cases h
  have hdue : w.engine.isDue w.source = true ↔ settled.Woken group := by
    have hs : settled = (run trade factory earlier (create trade source)).step trade factory .settle :=
      run_append trade factory earlier [.settle] _
    have hsettled : settled.Settled := hs ▸ settled_settle trade factory _
    rw [hw]
    refine isDue_run trade factory hsettled (holding_run trade factory hnone _) hgroup ?_ ?_ ?_ <;> rw [← hw]
    · exact htask
    · exact hlive
    · exact hcancelled
  refine ⟨fun h => ?_, fun h => ?_, fun h => ?_⟩
  · have hp : w.passes .settle = [Move.wantedAfter source.value moves] := by
      rw [passes, if_pos (hdue.mpr h), hwanted]
    refine ⟨hp, ?_⟩
    rw [record_step, hp]
    rfl
  · exact settle_of_not_isDue trade factory (Bool.eq_false_iff.mpr fun hd => h (hdue.mp hd)) hlive
  · have hcurrent : w.Current ([] ++ passesOf trade factory moves (create trade source)).getLast? :=
      current_run trade factory (fun started seen ht => by cases ht) h
    have hlast := last_pass_of_settle hcurrent htask fun ht => by
      simp [moves, holding_run trade factory hnone moves ht] at hlive
    have hpasses : passesOf trade factory (moves ++ [.settle]) (create trade source) =
        [] ++ passesOf trade factory moves (create trade source) ++ w.passes .settle := by
      simp only [passesOf_append, passesOf, List.append_nil, List.nil_append, w]
    rw [hwanted, ← hpasses] at hlast
    obtain ⟨done, hdone, hrecord⟩ := record_run_of_last trade factory hlast
    rw [run_append] at hrecord
    exact ⟨done, hdone, hrecord⟩

/-- A settled profile engine is not disturbed by another start, but a stop and a start rebuild its handle. -/
theorem settle_after_restart :
    let set : ProfileSet := { profiles := [.create "a" "a" "http://a.b"], selected := some "a" }
    let w (group : List (Move ProfileSet)) :=
      run ProfileEngine.trade ⟨fun _ _ => .ok ()⟩ ([.spawn, .start] ++ .settle :: group)
        (create ProfileEngine.trade { value := set })
    let alive (group : List (Move ProfileSet)) :=
      ((w group).step ProfileEngine.trade ⟨fun _ _ => .ok ()⟩ .settle).engine.record.ledger.alive
    (w [.start]).passes .settle = [] ∧ alive [.start] = [1] ∧
      (w [.stop, .start]).passes .settle = [some set] ∧ alive [.stop, .start] = [2] := by
  intro set w alive
  obtain ⟨-, hidle, -⟩ := settle_passes_iff_woken ProfileEngine.trade ⟨fun _ _ => .ok ()⟩ { value := set }
    [.spawn, .start] [.start] (by simp) (by decide) rfl rfl
  obtain ⟨hwoken, -, -⟩ := settle_passes_iff_woken ProfileEngine.trade ⟨fun _ _ => .ok ()⟩ { value := set }
    [.spawn, .start] [.stop, .start] (by simp) (by decide) rfl rfl
  have hidle := hidle <| by
    rintro (h | ⟨_, h⟩ | h)
    · exact absurd h (by decide)
    · simp at h
    · exact absurd h (by decide)
  have hwoken := hwoken (.inr (.inr (by decide)))
  refine ⟨rfl, ?_, hwoken.1, ?_⟩
  · exact (congrArg (·.engine.record.ledger.alive) hidle).trans rfl
  · exact (congrArg (·.ledger.alive) hwoken.2).trans rfl

end World

end ProxyKeeper

/-
Changes of the flag, and whether the background task hears of them. Of the
changes since it last looked the task knows only that there were some: it
finds the flag as it is now. What it cannot miss is that there were any, as
long as it listens (`Listens.isDue_run`): the version that it has seen is
never ahead of the flag's (`Heard`), and every real change moves the latter
past it.

`Heard` also says what a task that has seen everything has left behind on a
stopped engine: nothing, since its last pass was one for nothing.
-/
import ProxyKeeper.Proofs.Engine.Wake

namespace ProxyKeeper

variable {S P H V : Type}

/-- Nothing starts a stopped engine but a start. -/
theorem Move.foldl_flagAfter_false {moves : List (Move S)} (h : .start ∉ moves) :
    moves.foldl flagAfter false = false := by
  induction moves with
  | nil => rfl
  | cons m rest ih =>
    obtain ⟨hm, hrest⟩ := not_or.1 (mt List.mem_cons.2 h)
    have hf : m.flagAfter false = false := by
      cases m with
      | start => exact absurd rfl hm
      | stop | reconcile | spawn | publish | closeSource | settle | shutdown => rfl
    rw [List.foldl_cons, hf]
    exact ih hrest

namespace World

variable {trade : Trade S P H V} {factory : Factory P} {blank : Record P H V → Prop} {w : World S P H V}

/-! ## the task of an engine that is not shut down -/

theorem cancelled_run {moves : List (Move S)} (h : (run trade factory moves w).engine.cancelled = false) :
    .shutdown ∉ moves := by
  suffices all : w.engine.cancelled = false ∧ .shutdown ∉ moves from all.2
  induction moves generalizing w with
  | nil => exact ⟨h, List.not_mem_nil⟩
  | cons m rest ih =>
    obtain ⟨hc, hrest⟩ := ih h
    obtain ⟨hc, hne⟩ := cancelled_step trade factory hc
    exact ⟨hc, mt List.mem_cons.1 (not_or.2 ⟨hne.symm, hrest⟩)⟩

/-- A task that was spawned stays until a shutdown. -/
theorem task_ne_absent_run {moves : List (Move S)} (hshutdown : .shutdown ∉ moves) (ht : w.engine.task ≠ .absent) :
    (run trade factory moves w).engine.task ≠ .absent := by
  induction moves generalizing w with
  | nil => exact ht
  | cons m rest ih =>
    obtain ⟨hm, hrest⟩ := not_or.1 (mt List.mem_cons.2 hshutdown)
    refine ih hrest ?_
    by_cases hs : m = .settle
    · rw [hs, World.step]
      rcases Engine.settle_cases trade factory w.source w.engine with ⟨-, h⟩ | ⟨-, h | ⟨-, h⟩⟩ <;> rw [h]
      · simp only [Engine.passAndWait]
        split <;> simp
      · exact ht
      · simp
    · rcases task_step trade factory w hs (Ne.symm hm) with h | ⟨-, h⟩
      · rw [h]
        exact ht
      · rw [h]
        simp

/-- And it does not move until it is let run. -/
theorem task_run_of_spawned {group : List (Move S)} (hsettle : .settle ∉ group) (hshutdown : .shutdown ∉ group)
    (ht : w.engine.task ≠ .absent) : (run trade factory group w).engine.task = w.engine.task := by
  induction group generalizing w with
  | nil => rfl
  | cons m rest ih =>
    obtain ⟨hm, hrest⟩ := not_or.1 (mt List.mem_cons.2 hsettle)
    obtain ⟨hm', hrest'⟩ := not_or.1 (mt List.mem_cons.2 hshutdown)
    have hs : (w.step trade factory m).engine.task = w.engine.task := by
      rcases task_step trade factory w (Ne.symm hm) (Ne.symm hm') with h | ⟨ha, -⟩
      · exact h
      · exact absurd ha ht
    rw [← hs]
    exact ih hrest hrest' (hs ▸ ht)

/-! ## what the task has seen of the flag -/

/-- The task has seen no version of the flag that is still to come, and if it has seen the latest and the engine is
stopped, nothing is left. -/
def Heard (blank : Record P H V → Prop) (w : World S P H V) : Prop :=
  ∀ started seen, w.engine.task = .waiting started seen →
    started.seen ≤ w.engine.started.version ∧
      (started.seen = w.engine.started.version → w.engine.isStarted = false → blank w.engine.record)

theorem Heard.step (h : w.Heard blank) (clear : blank (w.engine.record.pass trade factory none)) (m : Move S) :
    (w.step trade factory m).Heard blank := by
  have stopped : ∀ snapshot, w.engine.isStarted = false →
      blank (w.engine.record.pass trade factory (w.engine.wanted snapshot)) := by
    intro snapshot hs
    simpa only [Engine.wanted, hs, Bool.false_eq_true, if_false] using clear
  have set : ∀ value, World.Heard blank { w with engine := w.engine.setStarted value } := by
    intro value
    rw [Engine.setStarted]
    split
    · exact h
    · intro started seen ht
      obtain ⟨hle, -⟩ := h started seen ht
      refine ⟨Nat.le_succ_of_le hle, fun hv => ?_⟩
      rw [Watch.version_publish] at hv
      omega
  cases m with
  | start => exact set true
  | stop => exact set false
  | reconcile snapshot => exact fun started seen ht => ⟨(h started seen ht).1, fun _ hs => stopped snapshot hs⟩
  | spawn =>
    simp only [World.step, Engine.spawn]
    split
    · exact h
    · split
      · exact h
      · exact fun started seen ht => by cases ht
  | publish snapshot =>
    rw [World.step]
    split
    · exact h
    · exact h
  | closeSource => exact h
  | settle =>
    rw [World.step]
    rcases Engine.settle_cases trade factory w.source w.engine with ⟨-, hs⟩ | ⟨-, hs | ⟨-, hs⟩⟩ <;> rw [hs]
    · intro started seen ht
      simp only [Engine.passAndWait] at ht
      split at ht
      · cases ht
        exact ⟨Nat.le_refl _, fun _ hs => stopped w.source.value hs⟩
      · cases ht
    · exact h
    · exact fun started seen ht => by cases ht
  | shutdown =>
    intro started seen ht
    have ha : (w.step trade factory .shutdown).engine.task = .absent := Engine.task_setStarted _ _
    cases ha.symm.trans ht

theorem heard_run {I : Record P H V → Prop} (pass : ∀ r wanted, I r → I (r.pass trade factory wanted))
    (clear : ∀ r, I r → blank (r.pass trade factory none)) (hw : I w.engine.record) (h : w.Heard blank)
    (moves : List (Move S)) : (run trade factory moves w).Heard blank := by
  induction moves generalizing w with
  | nil => exact h
  | cons m rest ih =>
    refine ih ?_ (h.step (clear _ hw) m)
    rw [record_step]
    exact Record.foldl_keeps trade factory pass hw _

/-! ## a task that listens -/

/-- There is a task, and it hears of the flag. -/
structure Listens (blank : Record P H V → Prop) (w : World S P H V) : Prop where
  spawned : w.engine.task ≠ .absent
  follows : w.engine.task ≠ .holding
  heard : w.Heard blank

/-- While the source is there every task listens. -/
theorem listens_run {source : Watch S} {moves : List (Move S)}
    (ht : (run trade factory moves (create trade source)).engine.task ≠ .absent)
    (hlive : (run trade factory moves (create trade source)).source.live = true) :
    (run trade factory moves (create trade source)).Listens fun _ => True where
  spawned := ht
  follows hh := by
    have hclosed := holding_run trade factory (w := create trade source) (fun h => by cases h) moves hh
    cases hclosed.symm.trans hlive
  heard := heard_run (I := fun _ => True) (w := create trade source) (fun _ _ _ => trivial) (fun _ _ => trivial) trivial
    (fun started seen ht => by cases ht) moves

/-- Whatever happens to the flag, a task that listens has a pass to run if it really changed. -/
theorem Listens.isDue_run (trade : Trade S P H V) (factory : Factory P) (h : w.Listens blank) (group : List (Move S))
    (hsettle : .settle ∉ group) (hshutdown : .shutdown ∉ group)
    (hchanged : 0 < Move.flagChanges w.engine.isStarted group) :
    (run trade factory group w).engine.isDue (run trade factory group w).source = true := by
  have same : (run trade factory group w).engine.task = w.engine.task :=
    task_run_of_spawned hsettle hshutdown h.spawned
  cases he : w.engine.task with
  | absent => exact absurd he h.spawned
  | holding => exact absurd he h.follows
  | ready => simp only [Engine.isDue, same, he]
  | waiting started seen =>
    have hle := (h.heard started seen he).1
    have hv := started_run trade factory group w
    rw [← Bool.not_eq_false, Engine.isDue_waiting_eq_false_iff _ _ (same.trans he)]
    omega

/-- A stop is heard by a task that listens, and nothing is left. -/
theorem Listens.stop (h : w.Listens blank) (clear : blank (w.engine.record.pass trade factory none)) :
    blank (run trade factory [.stop, .settle] w).engine.record := by
  have htask : (w.step trade factory .stop).engine.task = w.engine.task := Engine.task_setStarted _ _
  have hstarted : (w.step trade factory .stop).engine.isStarted = false := Engine.isStarted_setStarted _ _
  have hrecord : (w.step trade factory .stop).engine.record = w.engine.record := Engine.record_setStarted _ _
  show blank ((w.step trade factory .stop).step trade factory .settle).engine.record
  rw [record_step, passes]
  cases hd : (w.step trade factory .stop).engine.isDue (w.step trade factory .stop).source with
  | true =>
    simpa only [Engine.wanted, hstarted, hrecord, Bool.false_eq_true, if_true, if_false, List.foldl_cons,
      List.foldl_nil] using clear
  | false =>
    -- It was stopped before, and its last pass was one for nothing.
    rw [if_neg (by decide), List.foldl_nil]
    cases he : w.engine.task with
    | absent => exact absurd he h.spawned
    | holding => exact absurd he h.follows
    | ready => simp [Engine.isDue, htask.trans he] at hd
    | waiting started seen =>
      have hv := ((Engine.isDue_waiting_eq_false_iff _ _ (htask.trans he)).1 hd).1
      exact (h.heard.step clear .stop started seen (htask.trans he)).2 hv hstarted

/-- And so is the start of a stopped engine. -/
theorem Listens.start (h : w.Listens blank) (hs : w.engine.isStarted = false) :
    (run trade factory [.start, .settle] w).engine.record =
      w.engine.record.pass trade factory (some w.source.value) := by
  have hstarted : (w.step trade factory .start).engine.isStarted = true := Engine.isStarted_setStarted _ _
  have hrecord : (w.step trade factory .start).engine.record = w.engine.record := Engine.record_setStarted _ _
  have hdue : (w.step trade factory .start).engine.isDue (w.step trade factory .start).source = true :=
    h.isDue_run trade factory [.start] (by simp) (by simp) (by simp [Move.flagChanges, Move.flagAfter, hs])
  show ((w.step trade factory .start).step trade factory .settle).engine.record = _
  rw [record_step, passes, if_pos hdue, List.foldl_cons, List.foldl_nil, Engine.wanted, hstarted, hrecord]
  rfl

end World

end ProxyKeeper

/-
An engine over its life, with its task and its shutdowns in small steps. The
moves are those of a run, but letting the task run is one step of it, and
a shutdown is the steps of its caller, who asks the task to end, takes it out
of the engine, waits for it and then empties the engine. Whatever else is done
may come in between, other shutdowns too: they find no task to wait for, so
they empty the engine and return while the first still waits. A caller that
gives up while it waits is one that never comes back to it.

The engine's own `task` says here only whether the engine knows of one: it is
taken out when the shutdown begins, while the task itself may still have its
first pass before it. `step_cases` is all that a move does to what the end
depends on. A task that is asked to end makes four more steps at most
(`left_run`), one of which may be a pass (`taskPasses_le`).

`exists_run`: the runs whose task is let run as a whole, and whose shutdown is
one move, are among these.
-/
import ProxyKeeper.Proofs.Engine.Drive

namespace ProxyKeeper

variable {S P H V : Type}

/-- Whether the task waits, so that it can be told to end. -/
def Phase.waits : Phase S → Bool
  | .select .. | .holding => true
  | .mark | .fetch _ | .pass .. => false

/-- How many steps a task makes that is asked to end. -/
def Phase.left : Phase S → Nat
  | .mark => 4
  | .fetch _ => 3
  | .pass .. => 2
  | .select .. | .holding => 1

/-- How many passes a task runs that is asked to end. -/
def Phase.duePasses : Phase S → Nat
  | .mark | .fetch _ | .pass .. => 1
  | .select .. | .holding => 0

/-- Whether a move lets the task run. -/
def Move.isSettle : Move S → Bool
  | .settle => true
  | .start | .stop | .reconcile _ | .spawn | .publish _ | .closeSource | .shutdown => false

/-- The same with a task that stands elsewhere. -/
def World.withTask (t : DriveTask) (w : World S P H V) : World S P H V :=
  { w with engine := { w.engine with task := t } }

/-- Whether an engine lets a task be spawned. -/
def Engine.accepts (e : Engine S P H V) : Bool := e.spawn.2.isOk

structure Life (S P H V : Type) where
  world : World S P H V
  /-- Where the task stands in its loop, while there is one. -/
  phase : Option (Phase S) := none
  /-- Whether a shutdown was begun that took out the task and has not returned. -/
  ending : Bool := false

namespace Life

/-- The life of a new engine. -/
def create (trade : Trade S P H V) (source : Watch S) : Life S P H V := { world := .create trade source }

/-- Whether a move spawns a task. -/
def spawned (l : Life S P H V) : Move S → Bool
  | .spawn => l.world.engine.accepts
  | .start | .stop | .reconcile _ | .publish _ | .closeSource | .settle | .shutdown => false

section

variable (trade : Trade S P H V) (factory : Factory P)

/-- One step of the task. Only where it waits it looks whether it ought to end, and there it looks at that first. -/
def advance (l : Life S P H V) : Life S P H V :=
  match l.phase with
  | none => l
  | some p =>
    if p.waits ∧ l.world.engine.cancelled then { l with phase := none }
    else
      let d := Drive.advance trade factory ⟨p, l.world⟩
      { l with world := d.world, phase := some d.phase }

/-- A shutdown begins: the task is asked to end and is taken out of the engine. -/
def beginEnd (l : Life S P H V) : Life S P H V :=
  { l with
    world := { l.world with engine := { l.world.engine with task := .absent, cancelled := true } }
    ending := true }

/-- What a shutdown does before it returns: the engine is stopped, and a pass for nothing is run. -/
def emptied (l : Life S P H V) : Life S P H V :=
  { l with world := { l.world with engine := (l.world.engine.setStarted false).apply trade factory none } }

/-- The shutdown that took out the task returns. -/
def finishEnd (l : Life S P H V) : Life S P H V := { l.emptied trade factory with ending := false }

/-- A shutdown, unless one waits, begins. While one waits for a task that is still there, a shutdown is another one,
which finds no task and returns at once. -/
def step (l : Life S P H V) : Move S → Life S P H V
  | .settle => l.advance trade factory
  | .shutdown =>
    if l.ending then if l.phase.isSome then l.emptied trade factory else l.finishEnd trade factory
    else l.beginEnd
  | .spawn =>
    { l with
      world := l.world.step trade factory .spawn
      phase := if l.world.engine.accepts then some .mark else l.phase }
  | m => { l with world := l.world.step trade factory m }

def run (moves : List (Move S)) (l : Life S P H V) : Life S P H V := moves.foldl (step trade factory) l

/-- How often moves spawn a task. -/
def spawns : List (Move S) → Life S P H V → Nat
  | [], _ => 0
  | m :: rest, l => (l.spawned m).toNat + spawns rest (l.step trade factory m)

/-- What the passes of a move want, in order. -/
def passes (l : Life S P H V) : Move S → List (Option S)
  | .reconcile snapshot => [l.world.engine.wanted snapshot]
  | .settle =>
    match l.phase with
    | some (.pass _ _ snapshot) => [l.world.engine.wanted snapshot]
    | _ => []
  | .shutdown => if l.ending then [none] else []
  | .start | .stop | .spawn | .publish _ | .closeSource => []

/-- How many passes the task runs. -/
def taskPasses : List (Move S) → Life S P H V → Nat
  | [], _ => 0
  | m :: rest, l => (if m.isSettle then (l.passes m).length else 0) + taskPasses rest (l.step trade factory m)

theorem run_append (a b : List (Move S)) (l : Life S P H V) :
    run trade factory (a ++ b) l = run trade factory b (run trade factory a l) := List.foldl_append

/-! ## what a move does -/

theorem accepts_iff {e : Engine S P H V} : e.accepts = true ↔ e.task = .absent ∧ e.cancelled = false := by
  rw [Engine.accepts, Engine.spawn]
  by_cases ht : e.task = .absent <;> cases hc : e.cancelled <;> simp [ht, Except.isOk, Except.toBool]

theorem spawn_of_accepts {e : Engine S P H V} (h : e.accepts = true) : e.spawn.1 = { e with task := .ready } := by
  obtain ⟨ht, hc⟩ := accepts_iff.1 h
  rw [Engine.spawn, if_neg (by simp [ht]), if_neg (by simp [hc])]

theorem spawn_of_not_accepts {e : Engine S P H V} (h : e.accepts = false) : e.spawn.1 = e := by
  rw [Bool.eq_false_iff, ne_eq, accepts_iff] at h
  rw [Engine.spawn]
  by_cases ht : e.task = .absent
  · have hc : e.cancelled = true := Bool.not_eq_false _ ▸ fun hc => h ⟨ht, hc⟩
    rw [if_neg (by simp [ht]), if_pos hc]
  · rw [if_pos ht]

/-- A spawn that is not accepted leaves all as it was. -/
theorem step_spawn (l : Life S P H V) : l.step trade factory .spawn =
    if l.world.engine.accepts then
      { l with
        world := { l.world with engine := { l.world.engine with task := .ready } }, phase := some .mark }
    else l := by
  simp only [step, World.step]
  by_cases ha : l.world.engine.accepts = true
  · rw [if_pos ha, if_pos ha, spawn_of_accepts ha]
  · rw [if_neg ha, if_neg ha, spawn_of_not_accepts (Bool.eq_false_iff.2 ha)]

/-- What a move keeps that neither spawns a task nor belongs to a shutdown. -/
structure Kept (l l' : Life S P H V) : Prop where
  task : l'.world.engine.task = l.world.engine.task
  cancelled : l'.world.engine.cancelled = l.world.engine.cancelled
  ending : l'.ending = l.ending

theorem Kept.refl (l : Life S P H V) : Kept l l := ⟨rfl, rfl, rfl⟩

theorem kept_drive (p : Phase S) (w : World S P H V) :
    (Drive.advance trade factory ⟨p, w⟩).world.engine.task = w.engine.task ∧
      (Drive.advance trade factory ⟨p, w⟩).world.engine.cancelled = w.engine.cancelled := by
  cases p with
  | mark | fetch | pass | holding => exact ⟨rfl, rfl⟩
  | select started source =>
    rw [Drive.advance_select]
    split
    · exact ⟨rfl, rfl⟩
    · split <;> exact ⟨rfl, rfl⟩

theorem kept_advance (l : Life S P H V) : Kept l (l.advance trade factory) := by
  rw [advance]
  split
  · exact .refl l
  · rename_i p _
    split
    · exact ⟨rfl, rfl, rfl⟩
    · obtain ⟨ht, hc⟩ := kept_drive trade factory p l.world
      exact ⟨ht, hc, rfl⟩

theorem kept_emptied (l : Life S P H V) : Kept l (l.emptied trade factory) :=
  ⟨Engine.task_setStarted _ _, Engine.cancelled_setStarted _ _, rfl⟩

/-- All that a move does to what the end depends on: a task is spawned, the task makes a step, the shutdown that takes
out the task begins or returns, or nothing. -/
theorem step_cases (l : Life S P H V) (m : Move S) :
    (m = .spawn ∧ l.world.engine.task = .absent ∧ l.world.engine.cancelled = false ∧
        l.step trade factory m =
          { l with
            world := { l.world with engine := { l.world.engine with task := .ready } }, phase := some .mark }) ∨
      (m = .settle ∧ l.step trade factory m = l.advance trade factory) ∨
      (m = .shutdown ∧ l.ending = false ∧ l.step trade factory m = l.beginEnd) ∨
      (m = .shutdown ∧ l.ending = true ∧ l.phase = none ∧ l.step trade factory m = l.finishEnd trade factory) ∨
      m ≠ .settle ∧ Kept l (l.step trade factory m) ∧ (l.step trade factory m).phase = l.phase := by
  cases m with
  | settle => exact .inr (.inl ⟨rfl, rfl⟩)
  | spawn =>
    rw [step_spawn]
    split
    · rename_i ha
      obtain ⟨ht, hc⟩ := accepts_iff.1 ha
      exact .inl ⟨rfl, ht, hc, rfl⟩
    · exact .inr (.inr (.inr (.inr ⟨by simp, .refl l, rfl⟩)))
  | shutdown =>
    rw [step]
    cases he : l.ending with
    | false => exact .inr (.inr (.inl ⟨rfl, rfl, by simp⟩))
    | true =>
      cases hp : l.phase with
      | none => exact .inr (.inr (.inr (.inl ⟨rfl, rfl, rfl, by simp⟩)))
      | some p =>
        exact .inr (.inr (.inr (.inr ⟨by simp, kept_emptied trade factory l, hp⟩)))
  | start | stop =>
    exact .inr (.inr (.inr (.inr
      ⟨by simp, ⟨Engine.task_setStarted _ _, Engine.cancelled_setStarted _ _, rfl⟩, rfl⟩)))
  | reconcile | closeSource => exact .inr (.inr (.inr (.inr ⟨by simp, ⟨rfl, rfl, rfl⟩, rfl⟩)))
  | publish snapshot =>
    refine .inr (.inr (.inr (.inr ⟨by simp, ?_, rfl⟩)))
    simp only [step, World.step]
    split <;> exact ⟨rfl, rfl, rfl⟩

theorem task_finishEnd (l : Life S P H V) :
    (l.finishEnd trade factory).world.engine.task = l.world.engine.task := (kept_emptied trade factory l).task

theorem cancelled_finishEnd (l : Life S P H V) :
    (l.finishEnd trade factory).world.engine.cancelled = l.world.engine.cancelled :=
  (kept_emptied trade factory l).cancelled

/-! ## every life -/

/-- An engine that knows of a task was not shut down, and a task is one that the engine knows of or that is waited
for. -/
structure Sound (l : Life S P H V) : Prop where
  task : l.world.engine.task ≠ .absent → l.world.engine.cancelled = false
  ending : l.ending = true → l.world.engine.cancelled = true
  phase : l.phase ≠ none → l.world.engine.task ≠ .absent ∨ l.ending = true

theorem Sound.create (source : Watch S) : (create trade source).Sound where
  task h := absurd rfl h
  ending h := absurd h (by simp [Life.create])
  phase h := absurd rfl h

variable {trade factory} {l l' : Life S P H V}

theorem Sound.kept (h : l.Sound) (hk : Kept l l') (hp : l'.phase ≠ none → l.phase ≠ none) : l'.Sound := by
  refine ⟨fun ht => ?_, fun he => ?_, fun hphase => ?_⟩
  · rw [hk.task] at ht
    exact hk.cancelled.trans (h.task ht)
  · rw [hk.ending] at he
    exact hk.cancelled.trans (h.ending he)
  · rw [hk.task, hk.ending]
    exact h.phase (hp hphase)

theorem advance_of_none (h : l.phase = none) : l.advance trade factory = l := by rw [advance, h]

theorem Sound.step (h : l.Sound) (m : Move S) : (l.step trade factory m).Sound := by
  rcases step_cases trade factory l m with ⟨-, -, hc, hs⟩ | ⟨-, hs⟩ | ⟨-, -, hs⟩ | ⟨-, he, hp, hs⟩ | ⟨-, hk, hp⟩
  · rw [hs]
    exact ⟨fun _ => hc, h.ending, fun _ => .inl (by simp)⟩
  · rw [hs]
    refine h.kept (kept_advance trade factory l) fun hne hl => hne ?_
    rw [advance_of_none hl, hl]
  · rw [hs]
    exact ⟨fun ht => absurd rfl ht, fun _ => rfl, fun _ => .inr rfl⟩
  · rw [hs]
    refine ⟨fun ht => ?_, fun hne => absurd hne (by simp [finishEnd]), fun hne => absurd hp hne⟩
    rw [task_finishEnd] at ht
    exact (cancelled_finishEnd trade factory l).trans (h.task ht)
  · exact h.kept hk fun hne => hp ▸ hne

theorem Sound.run (h : l.Sound) (moves : List (Move S)) : (l.run trade factory moves).Sound :=
  List.foldlRecOn _ _ h fun _ h m _ => h.step m

/-! ## one task -/

/-- An engine that accepts no spawn will accept none. -/
theorem accepts_step (h : l.world.engine.accepts = false) (m : Move S) :
    (l.step trade factory m).world.engine.accepts = false := by
  have kept : ∀ e : Engine S P H V, e.task = l.world.engine.task →
      e.cancelled = l.world.engine.cancelled → e.accepts = false := by
    intro e ht hc
    rw [Bool.eq_false_iff, ne_eq, accepts_iff] at h ⊢
    rwa [ht, hc]
  rcases step_cases trade factory l m with ⟨-, ht, hc, -⟩ | ⟨-, hs⟩ | ⟨-, -, hs⟩ | ⟨-, -, -, hs⟩ | ⟨-, hk, -⟩
  · exact absurd (accepts_iff.2 ⟨ht, hc⟩) (by simp [h])
  · rw [hs]
    exact kept _ (kept_advance trade factory l).task (kept_advance trade factory l).cancelled
  · rw [hs, Bool.eq_false_iff, ne_eq, accepts_iff]
    exact fun ⟨_, hc⟩ => absurd hc (by simp [beginEnd])
  · rw [hs]
    exact kept _ (task_finishEnd trade factory l) (cancelled_finishEnd trade factory l)
  · exact kept _ hk.task hk.cancelled

theorem spawned_of_not_accepts (h : l.world.engine.accepts = false) (m : Move S) : l.spawned m = false := by
  cases m with
  | spawn => exact h
  | start | stop | reconcile | publish | closeSource | settle | shutdown => rfl

theorem spawns_of_not_accepts (h : l.world.engine.accepts = false) (moves : List (Move S)) :
    spawns trade factory moves l = 0 := by
  induction moves generalizing l with
  | nil => rfl
  | cons m rest ih =>
    rw [spawns, spawned_of_not_accepts h m, ih (accepts_step h m)]
    rfl

theorem accepts_of_spawned {m : Move S} (h : l.spawned m = true) :
    (l.step trade factory m).world.engine.accepts = false := by
  cases m with
  | spawn =>
    have h : l.world.engine.accepts = true := h
    rw [step_spawn, if_pos h, Bool.eq_false_iff, ne_eq, accepts_iff]
    exact fun ⟨ht, _⟩ => absurd ht (by simp)
  | start | stop | reconcile | publish | closeSource | settle | shutdown => cases h

/-- A task is spawned once at most. -/
theorem spawns_le_one (moves : List (Move S)) (l : Life S P H V) : spawns trade factory moves l ≤ 1 := by
  induction moves generalizing l with
  | nil => exact Nat.zero_le 1
  | cons m rest ih =>
    rw [spawns]
    cases hm : l.spawned m with
    | false => exact Nat.le_trans (Nat.le_of_eq (Nat.zero_add _)) (ih _)
    | true =>
      rw [spawns_of_not_accepts (accepts_of_spawned hm)]
      exact Nat.le_refl 1

/-! ## the end -/

/-- How many steps the task makes at most if it is asked to end. -/
def left (l : Life S P H V) : Nat := l.phase.elim 0 Phase.left

theorem left_le (l : Life S P H V) : l.left ≤ 4 := by
  rw [left]
  cases l.phase with
  | none => exact Nat.zero_le 4
  | some p => cases p <;> simp [Phase.left]

theorem left_eq_zero_iff : l.left = 0 ↔ l.phase = none := by
  rw [left]
  cases l.phase with
  | none => simp
  | some p => cases p <;> simp [Phase.left]

/-- Every step of a task that is asked to end brings it nearer to its end. -/
theorem left_advance (hc : l.world.engine.cancelled = true) : (l.advance trade factory).left = l.left - 1 := by
  rw [advance]
  cases hp : l.phase with
  | none => simp [left, hp]
  | some p => cases p <;> simp [left, hp, hc, Phase.waits, Phase.left, Drive.advance]

theorem left_step (hc : l.world.engine.cancelled = true) (m : Move S) :
    (l.step trade factory m).world.engine.cancelled = true ∧
      (l.step trade factory m).left ≤ l.left - m.isSettle.toNat := by
  rcases step_cases trade factory l m with ⟨-, -, hn, -⟩ | ⟨rfl, hs⟩ | ⟨rfl, -, hs⟩ | ⟨rfl, -, -, hs⟩ | ⟨hm, hk, hp⟩
  · exact absurd (hn.symm.trans hc) (by decide)
  · rw [hs]
    exact ⟨(kept_advance trade factory l).cancelled.trans hc, Nat.le_of_eq (left_advance hc)⟩
  · rw [hs]
    exact ⟨rfl, Nat.le_refl _⟩
  · rw [hs]
    exact ⟨(cancelled_finishEnd trade factory l).trans hc, Nat.le_refl _⟩
  · refine ⟨hk.cancelled.trans hc, ?_⟩
    have : m.isSettle = false := by
      cases m with
      | settle => exact absurd rfl hm
      | start | stop | reconcile | spawn | publish | closeSource | shutdown => rfl
    rw [left, hp, this]
    exact Nat.le_refl _

theorem left_run (hc : l.world.engine.cancelled = true) (moves : List (Move S)) :
    (l.run trade factory moves).left ≤ l.left - moves.countP Move.isSettle := by
  induction moves generalizing l with
  | nil => exact Nat.le_refl _
  | cons m rest ih =>
    obtain ⟨hc, hm⟩ : (l.step trade factory m).world.engine.cancelled = true ∧
      (l.step trade factory m).left ≤ l.left - m.isSettle.toNat := left_step hc m
    have hrest := ih hc
    rw [List.countP_cons]
    rw [run, List.foldl_cons, ← run]
    cases hs : m.isSettle <;> simp [hs] at hm ⊢ <;> omega

/-- How many passes the task runs if it is asked to end and let run. -/
def due (l : Life S P H V) : Nat := l.phase.elim 0 Phase.duePasses

theorem due_advance (hc : l.world.engine.cancelled = true) :
    (l.passes .settle).length + (l.advance trade factory).due = l.due := by
  rw [advance, passes]
  cases hp : l.phase with
  | none => simp [due, hp]
  | some p => cases p <;> simp [due, hp, hc, Phase.waits, Phase.duePasses, Drive.advance]

/-- A task that is asked to end runs no more passes than are due. -/
theorem taskPasses_le (hc : l.world.engine.cancelled = true) (moves : List (Move S)) :
    l.taskPasses trade factory moves ≤ l.due := by
  induction moves generalizing l with
  | nil => exact Nat.zero_le _
  | cons m rest ih =>
    have hrest := ih (l := l.step trade factory m) (left_step hc m).1
    have hm : (if m.isSettle then (l.passes m).length else 0) + (l.step trade factory m).due = l.due := by
      rcases step_cases trade factory l m with
        ⟨-, -, hn, -⟩ | ⟨rfl, hs⟩ | ⟨rfl, -, hs⟩ | ⟨rfl, -, -, hs⟩ | ⟨hm, -, hp⟩
      · exact absurd (hn.symm.trans hc) (by decide)
      · rw [hs]
        exact due_advance hc
      · rw [hs]
        exact Nat.zero_add _
      · rw [hs]
        exact Nat.zero_add _
      · have : m.isSettle = false := by
          cases m with
          | settle => exact absurd rfl hm
          | start | stop | reconcile | spawn | publish | closeSource | shutdown => rfl
        rw [this, due, hp]
        exact Nat.zero_add _
    rw [taskPasses]
    omega

theorem taskPasses_replicate (hc : l.world.engine.cancelled = true) (n : Nat) :
    l.taskPasses trade factory (.replicate n .settle) + (l.run trade factory (.replicate n .settle)).due = l.due := by
  induction n generalizing l with
  | zero => exact Nat.zero_add _
  | succ n ih =>
    have hrest := ih (l := l.advance trade factory) ((kept_advance trade factory l).cancelled.trans hc)
    show (l.passes .settle).length + _ + _ = _
    rw [Nat.add_assoc]
    exact (congrArg _ hrest).trans (due_advance hc)

/-- It runs those that are due, if it is let run. -/
theorem taskPasses_settle (hc : l.world.engine.cancelled = true) :
    l.taskPasses trade factory (.replicate 4 .settle) = l.due := by
  have hleft : (l.run trade factory (.replicate 4 .settle)).left ≤ _ := left_run hc (.replicate 4 .settle)
  have hcount : (List.replicate 4 (.settle : Move S)).countP Move.isSettle = 4 := rfl
  have hended : (l.run trade factory (.replicate 4 .settle)).left = 0 := by
    have hfour := l.left_le
    omega
  have hall : l.taskPasses trade factory (.replicate 4 .settle) + _ = l.due := taskPasses_replicate hc 4
  rwa [due, left_eq_zero_iff.1 hended] at hall

/-- An engine whose task was asked to end remembers it. -/
theorem cancelled_run (hc : l.world.engine.cancelled = true) (moves : List (Move S)) :
    (l.run trade factory moves).world.engine.cancelled = true :=
  List.foldlRecOn (motive := fun l : Life S P H V => l.world.engine.cancelled = true) _ _ hc
    fun _ h m _ => (left_step h m).1

/-- The engine was shut down: there is no task, nor will there be one. -/
structure Over (l : Life S P H V) : Prop where
  task : l.world.engine.task = .absent
  cancelled : l.world.engine.cancelled = true
  phase : l.phase = none

theorem Sound.over (h : l.Sound) (he : l.ending = true) (hp : l.phase = none) :
    (l.finishEnd trade factory).Over where
  task := by
    rw [task_finishEnd]
    exact Decidable.byContradiction fun ht => absurd ((h.task ht).symm.trans (h.ending he)) (by decide)
  cancelled := (cancelled_finishEnd trade factory l).trans (h.ending he)
  phase := hp

theorem Over.step (h : l.Over) (m : Move S) : (l.step trade factory m).Over := by
  rcases step_cases trade factory l m with ⟨-, -, hc, -⟩ | ⟨-, hs⟩ | ⟨-, -, hs⟩ | ⟨-, -, -, hs⟩ | ⟨-, hk, hp⟩
  · exact absurd (hc.symm.trans h.cancelled) (by decide)
  · rw [hs, advance_of_none h.phase]
    exact h
  · rw [hs]
    exact ⟨rfl, rfl, h.phase⟩
  · rw [hs]
    exact ⟨(task_finishEnd trade factory l).trans h.task,
      (cancelled_finishEnd trade factory l).trans h.cancelled, h.phase⟩
  · exact ⟨hk.task.trans h.task, hk.cancelled.trans h.cancelled, hp.trans h.phase⟩

theorem Over.run (h : l.Over) (moves : List (Move S)) : (l.run trade factory moves).Over :=
  List.foldlRecOn _ _ h fun _ h m _ => h.step m

theorem Over.spawn (h : l.Over) :
    l.world.engine.spawn = (l.world.engine, .error (.internal "engine has been shut down")) := by
  rw [Engine.spawn, if_neg (by simp [h.task]), if_pos h.cancelled]

/-! ## records -/

theorem record_step (l : Life S P H V) (m : Move S) :
    (l.step trade factory m).world.engine.record =
      (l.passes m).foldl (Record.pass trade factory) l.world.engine.record := by
  cases m with
  | start | stop => exact Engine.record_setStarted _ _
  | reconcile | closeSource => rfl
  | spawn => exact Engine.record_spawn _
  | publish snapshot =>
    simp only [step, World.step]
    split <;> rfl
  | settle =>
    simp only [step, advance, passes]
    cases l.phase with
    | none => rfl
    | some p =>
      cases p with
      | mark | fetch | pass => rfl
      | holding => dsimp only; split <;> rfl
      | select started source =>
        dsimp only
        rw [Drive.advance_select]
        split
        · rfl
        · split
          · rfl
          · split <;> rfl
  | shutdown =>
    have hemptied : (l.emptied trade factory).world.engine.record =
        l.world.engine.record.pass trade factory none :=
      congrArg (Record.pass trade factory · none) (Engine.record_setStarted _ _)
    simp only [step, passes]
    cases l.ending with
    | false => rfl
    | true => cases l.phase <;> exact hemptied

/-- What every pass keeps, every life keeps. -/
theorem record_induction {I : Record P H V → Prop} (pass : ∀ r wanted, I r → I (r.pass trade factory wanted))
    (h : I l.world.engine.record) (moves : List (Move S)) : I (l.run trade factory moves).world.engine.record :=
  List.foldlRecOn (motive := fun l : Life S P H V => I l.world.engine.record) _ _ h fun l h m _ => by
    rw [record_step]
    exact Record.foldl_keeps trade factory pass h _

/-! ## the task as a whole -/

/-- The life of an engine whose task is not running. -/
def ofWorld (w : World S P H V) : Life S P H V :=
  if w.engine.task = .absent then { world := w }
  else { world := w.withTask .ready, phase := some (Drive.phaseOf w.engine.task) }

theorem ofWorld_of_absent {w : World S P H V} (h : w.engine.task = .absent) : ofWorld w = { world := w } := if_pos h

theorem ofWorld_of_ne {w : World S P H V} (h : w.engine.task ≠ .absent) :
    ofWorld w = { world := w.withTask .ready, phase := some (Drive.phaseOf w.engine.task) } := if_neg h

variable (trade factory)

/-- What neither spawns a task nor lets one run does not ask where it stands. -/
theorem withTask_step (t : DriveTask) (w : World S P H V) {m : Move S} (hspawn : m ≠ .spawn) (hsettle : m ≠ .settle)
    (hshutdown : m ≠ .shutdown) :
    (w.withTask t).step trade factory m = (w.step trade factory m).withTask t := by
  cases m with
  | start =>
    by_cases h : w.engine.started.value = true <;>
      simp [World.step, Engine.start, Engine.setStarted, World.withTask, h]
  | stop =>
    by_cases h : w.engine.started.value = false <;>
      simp [World.step, Engine.stop, Engine.setStarted, World.withTask, h]
  | reconcile | closeSource => rfl
  | publish snapshot => cases h : w.source.live <;> simp [World.step, World.withTask, h]
  | spawn => exact absurd rfl hspawn
  | settle => exact absurd rfl hsettle
  | shutdown => exact absurd rfl hshutdown

theorem advance_withTask (t : DriveTask) (p : Phase S) (w : World S P H V) :
    Drive.advance trade factory ⟨p, w.withTask t⟩ =
      ⟨(Drive.advance trade factory ⟨p, w⟩).phase, (Drive.advance trade factory ⟨p, w⟩).world.withTask t⟩ := by
  cases p with
  | mark | fetch | pass | holding => rfl
  | select started source =>
    rw [Drive.advance_select, Drive.advance_select]
    show (if w.engine.started.version ≠ started.seen ∨ w.source.version ≠ source.seen then _
      else if w.source.live then _ else _) = _
    split
    · rfl
    · split <;> rfl

theorem advances_withTask (t : DriveTask) (n : Nat) (p : Phase S) (w : World S P H V) :
    Drive.advances trade factory n ⟨p, w.withTask t⟩ =
      ⟨(Drive.advances trade factory n ⟨p, w⟩).phase, (Drive.advances trade factory n ⟨p, w⟩).world.withTask t⟩ := by
  induction n generalizing p w with
  | zero => rfl
  | succ n ih =>
    rw [Drive.advances, advance_withTask, ih]
    rfl

/-- While nobody asks the task to end, its steps are those of its loop. -/
theorem run_settle (n : Nat) (p : Phase S) {w : World S P H V} (hc : w.engine.cancelled = false) :
    run trade factory (.replicate n .settle) { world := w, phase := some p } =
      { world := (Drive.advances trade factory n ⟨p, w⟩).world
        phase := some (Drive.advances trade factory n ⟨p, w⟩).phase } := by
  induction n generalizing p w with
  | zero => rfl
  | succ n ih =>
    have hstep : step trade factory { world := w, phase := some p } .settle =
        { world := (Drive.advance trade factory ⟨p, w⟩).world
          phase := some (Drive.advance trade factory ⟨p, w⟩).phase } := by
      simp only [step, advance]
      rw [if_neg (by simp [hc])]
    rw [List.replicate_succ, run, List.foldl_cons, ← run, hstep,
      ih _ ((kept_drive trade factory p w).2.trans hc)]
    rfl

theorem source_advances (n : Nat) (d : Drive S P H V) :
    (Drive.advances trade factory n d).world.source = d.world.source := by
  induction n generalizing d with
  | zero => rfl
  | succ n ih =>
    rw [Drive.advances, ih]
    obtain ⟨p, w⟩ := d
    cases p with
    | mark | fetch | pass | holding => rfl
    | select started source =>
      rw [Drive.advance_select]
      split
      · rfl
      · split <;> rfl

/-- A task that cannot go on stands where it is seen to stand. -/
theorem phaseOf_task {d : Drive S P H V} (h : d.advance trade factory = d) : Drive.phaseOf d.phase.task = d.phase := by
  obtain ⟨p, w⟩ := d
  cases p with
  | mark | select | holding => rfl
  | fetch | pass => cases congrArg Drive.phase h

theorem exists_run_settle {w : World S P H V} (hc : w.engine.task ≠ .absent → w.engine.cancelled = false) :
    ∃ fine, run trade factory fine (ofWorld w) = ofWorld (w.step trade factory .settle) := by
  by_cases ht : w.engine.task = .absent
  · refine ⟨[], ?_⟩
    have : w.step trade factory .settle = w := by rw [World.step, Engine.settle, ht]
    rw [this]
    rfl
  · obtain ⟨n, hfixed, hsettle⟩ := Drive.settle_eq_drive trade factory ht
    have hsource := source_advances trade factory n ⟨Drive.phaseOf w.engine.task, w⟩
    refine ⟨.replicate n .settle, ?_⟩
    rw [ofWorld_of_ne ht, run_settle trade factory n _ (w := w.withTask .ready) (hc ht), advances_withTask]
    have hphase := phaseOf_task trade factory hfixed
    generalize Drive.advances trade factory n ⟨Drive.phaseOf w.engine.task, w⟩ = d at hfixed hsettle hsource hphase
    have habsent : d.phase.task ≠ .absent := by cases d.phase <;> simp [Phase.task]
    rw [World.step, hsettle, ofWorld_of_ne habsent, hphase, ← hsource]
    rfl

/-- A shutdown, when nothing comes in between. -/
theorem exists_run_shutdown (w : World S P H V) :
    ∃ n, let l := run trade factory (.shutdown :: .replicate n .settle) (ofWorld w)
      l.ending = true ∧ l.phase = none ∧
        l.finishEnd trade factory = ofWorld (w.step trade factory .shutdown) := by
  have after : (w.step trade factory .shutdown).engine.task = .absent := Engine.task_setStarted _ _
  rw [ofWorld_of_absent after]
  cases ht : w.engine.task with
  | absent =>
    rw [ofWorld_of_absent ht]
    refine ⟨0, rfl, rfl, ?_⟩
    simp only [World.step, Engine.shutdown, ht]
    rfl
  | ready =>
    rw [ofWorld_of_ne (by simp [ht]), ht]
    refine ⟨4, rfl, rfl, ?_⟩
    simp only [World.step, Engine.shutdown, ht]
    rfl
  | waiting started source =>
    rw [ofWorld_of_ne (by simp [ht]), ht]
    refine ⟨1, rfl, rfl, ?_⟩
    simp only [World.step, Engine.shutdown, ht]
    rfl
  | holding =>
    rw [ofWorld_of_ne (by simp [ht]), ht]
    refine ⟨1, rfl, rfl, ?_⟩
    simp only [World.step, Engine.shutdown, ht]
    rfl

theorem exists_run_step {w : World S P H V} (h : (ofWorld w).Sound) (m : Move S) :
    ∃ fine, run trade factory fine (ofWorld w) = ofWorld (w.step trade factory m) := by
  have others (hspawn : m ≠ .spawn) (hsettle : m ≠ .settle) (hshutdown : m ≠ .shutdown)
      (hm : ∀ l : Life S P H V, l.step trade factory m = { l with world := l.world.step trade factory m }) :
      ∃ fine, run trade factory fine (ofWorld w) = ofWorld (w.step trade factory m) := by
    refine ⟨[m], ?_⟩
    rw [run, List.foldl_cons, List.foldl_nil, hm]
    have task : (w.step trade factory m).engine.task = w.engine.task := by
      rcases step_cases trade factory { world := w } m with
        ⟨rfl, -⟩ | ⟨rfl, -⟩ | ⟨rfl, -⟩ | ⟨rfl, -⟩ | ⟨-, hk, -⟩
      · exact absurd rfl hspawn
      · exact absurd rfl hsettle
      · exact absurd rfl hshutdown
      · exact absurd rfl hshutdown
      · have ht := hk.task
        rwa [hm] at ht
    by_cases ht : w.engine.task = .absent
    · rw [ofWorld_of_absent ht, ofWorld_of_absent (task.trans ht)]
    · rw [ofWorld_of_ne ht, ofWorld_of_ne (task ▸ ht), task, withTask_step trade factory _ w hspawn hsettle hshutdown]
  cases m with
  | start | stop | reconcile | publish | closeSource =>
    exact others (by simp) (by simp) (by simp) fun _ => rfl
  | spawn =>
    cases ha : w.engine.accepts with
    | true =>
      refine ⟨[.spawn], ?_⟩
      have known : (w.step trade factory .spawn).engine.task = .ready := by rw [World.step, spawn_of_accepts ha]
      rw [ofWorld_of_absent (accepts_iff.1 ha).1, ofWorld_of_ne (by simp [known]), known, run, List.foldl_cons,
        List.foldl_nil, step_spawn, if_pos ha, World.step, spawn_of_accepts ha]
      rfl
    | false => exact ⟨[], by rw [World.step, spawn_of_not_accepts ha]; rfl⟩
  | settle =>
    refine exists_run_settle trade factory fun ht => ?_
    have known := h.task
    rw [ofWorld_of_ne ht] at known
    exact known (by simp [World.withTask])
  | shutdown =>
    obtain ⟨n, he, hp, hf⟩ := exists_run_shutdown trade factory w
    refine ⟨.shutdown :: .replicate n .settle ++ [.shutdown], ?_⟩
    rw [run_append, ← hf]
    show step trade factory _ .shutdown = _
    rw [step, if_pos he, if_neg (by simp [hp])]

/-- **Every run is a life**: what a run comes to with a task that is let run as a whole, it comes to in small steps. -/
theorem exists_run {w : World S P H V} (h : (ofWorld w).Sound) (moves : List (Move S)) :
    ∃ fine, run trade factory fine (ofWorld w) = ofWorld (w.run trade factory moves) := by
  induction moves generalizing w with
  | nil => exact ⟨[], rfl⟩
  | cons m rest ih =>
    obtain ⟨fine, hfine⟩ := exists_run_step trade factory h m
    obtain ⟨more, hmore⟩ := ih (hfine ▸ h.run fine)
    exact ⟨fine ++ more, by rw [run_append, hfine, hmore]; rfl⟩

end

end Life

end ProxyKeeper

/-
The end of an engine. A shutdown may be begun at any time: before a task was
spawned, before it ran, while it waits or holds on to the last snapshot of a
source that is gone, with changes that it has not seen. A task that is asked
to end may still run its first pass and make handles. The last pass of the
shutdown comes after all that, because the shutdown waits for the task first,
and from the moment it begins no task is spawned (`Life.Sound.over`).

So it is with shutdowns that come one after the other. One that comes while
another waits for the task does not wait for it. What it returns from is empty
all the same, but the task may have a pass before it, and one that makes
handles if the engine is started again by then; these are given back when the
other shutdown returns.

`EndsInSteps` is what there is to say of the end while other moves come in
between the steps of the task and of the shutdowns. `Ends` adds the shutdown
that is one move, and it follows: such a run is one in small steps
(`Ends.of_steps`). `EndsInSteps.of_keeps` reduces all this to what one pass
does.
-/
import ProxyKeeper.Proofs.Engine.Handles
import ProxyKeeper.Proofs.Engine.Life
import ProxyKeeper.Proofs.Engine.SingleHandle

namespace ProxyKeeper

variable {S P H V : Type}

/-! ## what ends -/

/-- There is no task that runs passes, and none is spawned. -/
structure Life.Still (l : Life S P H V) : Prop where
  phase : l.phase = none
  passes : l.passes .settle = []
  spawn : l.world.engine.spawn = (l.world.engine, .error (.internal "engine has been shut down"))

/-- The same of an engine whose task is let run as a whole. -/
structure World.Still (w : World S P H V) : Prop where
  task : w.engine.task = .absent
  passes : w.passes .settle = []
  spawn : w.engine.spawn = (w.engine, .error (.internal "engine has been shut down"))

section

variable (trade : Trade S P H V) (factory : Factory P) (source : Watch S) (blank : Record P H V → Prop)
  (number : V → Nat)

/-- What is so of the end of an engine, in small steps; `blank` says that nothing is left, and `number` is that of a
view. -/
structure EndsInSteps : Prop where
  /-- A task is spawned once at most. -/
  one_task : ∀ moves, Life.spawns trade factory moves (.create trade source) ≤ 1
  /-- After a shutdown was begun and four more steps of the task there is none to wait for, whatever else is done. -/
  comes : ∀ earlier waiting, 4 ≤ waiting.countP Move.isSettle →
    (Life.run trade factory (earlier ++ .shutdown :: waiting) (.create trade source)).phase = none
  /-- A shutdown that returns leaves nothing, and no task is spawned after it. -/
  returns : ∀ moves, let l := Life.run trade factory moves (.create trade source)
    l.ending = true → let after := l.step trade factory .shutdown
      blank after.world.engine.record ∧ after.world.engine.isStarted = false ∧
        (∀ earlier, earlier <+: moves →
          number (Life.run trade factory earlier (.create trade source)).world.engine.view.value <
            number after.world.engine.view.value) ∧
        ∀ later, (Life.run trade factory later after).world.engine.spawn =
          ((Life.run trade factory later after).world.engine, .error (.internal "engine has been shut down"))
  /-- If there is no task any more, nothing comes after it. -/
  final : ∀ moves, let l := Life.run trade factory moves (.create trade source)
    l.ending = true → l.phase = none → let after := l.step trade factory .shutdown
      after.ending = false ∧ ∀ later, (Life.run trade factory later after).Still
  /-- If there is one, for which another shutdown waits, it runs the pass that is due and no other. -/
  late : ∀ moves, let l := Life.run trade factory moves (.create trade source)
    l.ending = true → let after := l.step trade factory .shutdown
      (∀ later, after.taskPasses trade factory later ≤ l.due) ∧
        after.taskPasses trade factory (.replicate 4 .settle) = l.due

/-- What is so of the end of an engine. -/
structure Ends : Prop extends EndsInSteps trade factory source blank number where
  /-- A shutdown that is a single move leaves nothing, and nothing comes after it. -/
  whole : ∀ moves, let w := World.run trade factory moves (.create trade source)
    let after := w.step trade factory .shutdown
    blank after.engine.record ∧ after.engine.isStarted = false ∧
      number w.engine.view.value < number after.engine.view.value ∧
      ∀ later, (World.run trade factory later after).Still

end

/-! ## small steps -/

variable {trade : Trade S P H V} {factory : Factory P} {source : Watch S} {blank : Record P H V → Prop}
  {number : V → Nat}

namespace Life

variable {l : Life S P H V}

theorem Over.still (h : l.Over) : l.Still where
  phase := h.phase
  passes := by rw [passes, h.phase]
  spawn := h.spawn

theorem step_shutdown_of_none (he : l.ending = true) (hp : l.phase = none) :
    l.step trade factory .shutdown = l.finishEnd trade factory := by
  rw [step, if_pos he, if_neg (by simp [hp])]

/-- A shutdown that returns has emptied the engine, whether or not it is the one that waited. -/
theorem world_step_shutdown (he : l.ending = true) :
    (l.step trade factory .shutdown).world = (l.emptied trade factory).world := by
  rw [step, if_pos he]
  split <;> rfl

theorem phase_step_shutdown (he : l.ending = true) : (l.step trade factory .shutdown).phase = l.phase := by
  rw [step, if_pos he]
  split <;> rfl

theorem Sound.spawn_of_cancelled (h : l.Sound) (hc : l.world.engine.cancelled = true) :
    l.world.engine.spawn = (l.world.engine, .error (.internal "engine has been shut down")) := by
  have ht : l.world.engine.task = .absent := Decidable.byContradiction fun ht => by
    rw [h.task ht] at hc
    cases hc
  rw [Engine.spawn, if_neg (by simp [ht]), if_pos hc]

theorem Sound.cancelled_shutdown (h : l.Sound) :
    (l.step trade factory .shutdown).world.engine.cancelled = true := by
  by_cases he : l.ending = true
  · rw [world_step_shutdown he]
    exact (kept_emptied trade factory l).cancelled.trans (h.ending he)
  · rw [Life.step, if_neg he]
    rfl

/-- Once a shutdown was begun, four more steps of the task are its last. -/
theorem Sound.phase_run (h : l.Sound) {waiting : List (Move S)} (hw : 4 ≤ waiting.countP Move.isSettle) :
    ((l.step trade factory .shutdown).run trade factory waiting).phase = none := by
  have asked : (l.step trade factory .shutdown).world.engine.cancelled = true := h.cancelled_shutdown
  have left : ((l.step trade factory .shutdown).run trade factory waiting).left ≤ _ := left_run asked waiting
  have four := (l.step trade factory .shutdown).left_le
  exact left_eq_zero_iff.1 (Nat.le_zero.1 (Nat.le_trans left (by omega)))

/-- The generation of a life never falls. -/
theorem generation_le_run (moves : List (Move S)) :
    l.world.engine.record.generation ≤ (l.run trade factory moves).world.engine.record.generation :=
  record_induction (I := fun r => l.world.engine.record.generation ≤ r.generation)
    (fun _ _ h => Nat.le_succ_of_le h) (Nat.le_refl _) moves

end Life

/-- An engine comes to its end as it ought to if a pass for nothing leaves nothing and the views number the passes. -/
theorem EndsInSteps.of_keeps {I : Record P H V → Prop} (initial : I (.initial trade))
    (pass : ∀ r wanted, I r → I (r.pass trade factory wanted))
    (clear : ∀ r, I r → blank (r.pass trade factory none))
    (numbered : ∀ r, I r → number r.view.value = r.generation) :
    EndsInSteps trade factory source blank number := by
  have sound (moves) : (Life.run trade factory moves (.create trade source)).Sound :=
    (Life.Sound.create trade source).run moves
  have kept (moves) : I (Life.run trade factory moves (.create trade source)).world.engine.record :=
    Life.record_induction (l := Life.create trade source) pass initial moves
  refine ⟨fun moves => Life.spawns_le_one moves _, fun earlier waiting hw => ?_, fun moves => ?_, fun moves => ?_,
    fun moves => ?_⟩
  · rw [Life.run_append]
    exact (sound earlier).phase_run hw
  · intro l he after
    have hworld : after.world = (l.emptied trade factory).world := Life.world_step_shutdown he
    have hrecord : (l.emptied trade factory).world.engine.record =
        l.world.engine.record.pass trade factory none :=
      congrArg (Record.pass trade factory · none) (Engine.record_setStarted _ _)
    have hc : after.world.engine.cancelled = true := (sound moves).cancelled_shutdown
    refine ⟨by rw [hworld, hrecord]; exact clear _ (kept moves), by rw [hworld]; exact Engine.isStarted_setStarted _ _,
      fun earlier hearlier => ?_, fun later => ?_⟩
    · obtain ⟨rest, rfl⟩ := hearlier
      have before := numbered _ (kept earlier)
      have last := numbered _ (pass _ none (kept (earlier ++ rest)))
      have grows : (Life.run trade factory earlier (.create trade source)).world.engine.record.generation ≤
          l.world.engine.record.generation := by
        simp only [l, Life.run_append]
        exact Life.generation_le_run rest
      calc number (Life.run trade factory earlier (.create trade source)).world.engine.view.value
          = (Life.run trade factory earlier (.create trade source)).world.engine.record.generation := before
        _ < l.world.engine.record.generation + 1 := Nat.lt_succ_of_le grows
        _ = number (l.world.engine.record.pass trade factory none).view.value := last.symm
        _ = number after.world.engine.view.value := by rw [hworld, ← hrecord]; rfl
    · exact (((sound moves).step .shutdown).run later).spawn_of_cancelled (Life.cancelled_run hc later)
  · intro l he hp after
    have hafter : after = l.finishEnd trade factory := Life.step_shutdown_of_none he hp
    rw [hafter]
    exact ⟨rfl, fun later => (((sound moves).over he hp).run later).still⟩
  · intro l he after
    have hc : after.world.engine.cancelled = true := (sound moves).cancelled_shutdown
    have hdue : after.due = l.due := by rw [Life.due, Life.due, Life.phase_step_shutdown he]
    rw [← hdue]
    exact ⟨Life.taskPasses_le hc, Life.taskPasses_settle hc⟩

/-- A task that has not run when the shutdown begins makes a handle, which is given back before the shutdown
returns. -/
example :
    let set : ProfileSet := { profiles := [.create "a" "a" "http://a.b"], selected := some "a" }
    let l (moves : List (Move ProfileSet)) :=
      Life.run ProfileEngine.trade ⟨fun _ _ => .ok ()⟩ moves (.create ProfileEngine.trade { value := set })
    let begun : List (Move ProfileSet) := [.spawn, .start, .shutdown, .settle, .settle, .settle]
    (l begun).world.engine.ledger.alive = [1] ∧
      (l (begun ++ [.spawn, .settle, .shutdown])).world.engine.ledger.alive = [] := by decide

end ProxyKeeper

/-
The background task in small steps: it marks the flag as seen, fetches the
latest snapshot, runs a pass, and then waits for a change of either. Starts,
stops and publications may come in between any two of them.

`settle_eq_drive`: if none does, the small steps together are what letting
the task run is.
`drive_keeps_up`: if any do, wherever they fall, still none is lost: a task
that waits and has seen everything ran its last pass over the latest snapshot
and flag. The flag may be marked before it is read, because what comes after
the mark is seen at the wait.
-/
import ProxyKeeper.Proofs.Engine.Wake

namespace ProxyKeeper

variable {S P H V : Type}

/-- Where the task stands in its loop. -/
inductive Phase (S : Type) where
  | mark
  | fetch (started : Watcher)
  | pass (started source : Watcher) (snapshot : S)
  | select (started source : Watcher)
  | holding

/-- What is seen of a phase by who lets the task run as a whole. -/
def Phase.task : Phase S → DriveTask
  | .mark | .fetch _ | .pass .. => .ready
  | .select started source => .waiting started source
  | .holding => .holding

/-- An engine and its source, with the task in the middle of its loop. -/
structure Drive (S P H V : Type) where
  phase : Phase S
  world : World S P H V

/-- What comes from outside. -/
inductive Move.IsOutside : Move S → Prop
  | start : IsOutside .start
  | stop : IsOutside .stop
  | publish (snapshot : S) : IsOutside (.publish snapshot)
  | closeSource : IsOutside .closeSource

namespace World

variable (trade : Trade S P H V) (factory : Factory P)

/-- A later world: what has not got a new version is as it was. -/
structure Later (w w' : World S P H V) : Prop where
  record : w'.engine.record = w.engine.record
  started : w.engine.started.version ≤ w'.engine.started.version
  flag : w'.engine.started.version = w.engine.started.version → w'.engine.isStarted = w.engine.isStarted
  source : w.source.version ≤ w'.source.version
  snapshot : w'.source.version = w.source.version → w'.source.value = w.source.value

theorem later_step (w : World S P H V) {m : Move S} (hm : m.IsOutside) : w.Later (w.step trade factory m) := by
  obtain ⟨hflag, hversion⟩ := started_step trade factory w m
  have hsource : w.source.version ≤ (w.step trade factory m).source.version ∧
      ((w.step trade factory m).source.version = w.source.version →
        (w.step trade factory m).source.value = w.source.value) := by
    cases hm with
    | publish snapshot =>
      rw [step]
      split
      · exact ⟨Nat.le_succ _, fun h => absurd h (Nat.succ_ne_self _)⟩
      · exact ⟨Nat.le_refl _, fun _ => rfl⟩
    | start | stop | closeSource => exact ⟨Nat.le_refl _, fun _ => rfl⟩
  refine ⟨?_, ?_, fun h => ?_, hsource.1, hsource.2⟩
  · rw [record_step]
    cases hm <;> rfl
  · rw [hversion]
    exact Nat.le_add_right _ _
  · rw [hflag]
    split at hversion
    · assumption
    · omega

end World

namespace Drive

variable (trade : Trade S P H V) (factory : Factory P)

/-- One small step of the task. -/
def advance (d : Drive S P H V) : Drive S P H V :=
  match d.phase with
  | .mark => { d with phase := .fetch d.world.engine.started.subscribe }
  | .fetch started => { d with phase := .pass started d.world.source.subscribe d.world.source.value }
  | .pass started source snapshot =>
    ⟨.select started source, d.world.step trade factory (.reconcile snapshot)⟩
  | .select started source =>
    match d.world.engine.started.notice started, d.world.source.notice source with
    | .changed, _ => { d with phase := .mark }
    | _, .changed => { d with phase := .mark }
    | _, .closed => { d with phase := .holding }
    | _, .pending => d
  | .holding => d

/-- A step from outside, while the task stands where it stands. -/
def disturb (m : Move S) (d : Drive S P H V) : Drive S P H V := { d with world := d.world.step trade factory m }

/-- States that a task with nothing to do yet may come to, with steps from outside anywhere between its own. -/
inductive Reachable : Drive S P H V → Drive S P H V → Prop
  | refl {d} : Reachable d d
  | advance {d d'} : Reachable d d' → Reachable d (d'.advance trade factory)
  | disturb {d d' m} : Reachable d d' → Move.IsOutside m → Reachable d (d'.disturb trade factory m)

/-! ## keeping up -/

/-- The last pass was one for the latest snapshot and flag. -/
def UpToDate (w : World S P H V) : Prop :=
  ∃ r : Record P H V, w.engine.record = r.pass trade factory (w.engine.wanted w.source.value)

/-- What the task has seen when it comes to a phase. -/
def Sound (d : Drive S P H V) : Prop :=
  match d.phase with
  | .mark | .holding => True
  | .fetch started => started.seen ≤ d.world.engine.started.version
  | .pass started source snapshot =>
    started.seen ≤ d.world.engine.started.version ∧ source.seen ≤ d.world.source.version ∧
      (source.seen = d.world.source.version → snapshot = d.world.source.value)
  | .select started source =>
    started.seen ≤ d.world.engine.started.version ∧ source.seen ≤ d.world.source.version ∧
      (started.seen = d.world.engine.started.version → source.seen = d.world.source.version →
        UpToDate trade factory d.world)

variable {trade factory}

theorem sound_advance {d : Drive S P H V} (h : d.Sound trade factory) :
    (d.advance trade factory).Sound trade factory := by
  obtain ⟨phase, w⟩ := d
  cases phase with
  | mark => exact Nat.le_refl w.engine.started.version
  | fetch started => exact ⟨h, Nat.le_refl w.source.version, fun _ => rfl⟩
  | pass started source snapshot =>
    obtain ⟨hf, hs, hsnapshot⟩ := h
    refine ⟨hf, hs, fun _ hv => ⟨w.engine.record, ?_⟩⟩
    have hv : snapshot = w.source.value := hsnapshot hv
    rw [hv]
    rfl
  | select started source =>
    simp only [advance]
    split
    · trivial
    · trivial
    · trivial
    · exact h
  | holding => trivial

theorem sound_disturb {d : Drive S P H V} (h : d.Sound trade factory) {m : Move S} (hm : m.IsOutside) :
    (d.disturb trade factory m).Sound trade factory := by
  obtain ⟨phase, w⟩ := d
  have hl := World.later_step trade factory w hm
  cases phase with
  | mark | holding => trivial
  | fetch started => exact Nat.le_trans h hl.started
  | pass started source snapshot =>
    obtain ⟨hf, hs, hsnapshot⟩ := h
    refine ⟨Nat.le_trans hf hl.started, Nat.le_trans hs hl.source, fun hv => ?_⟩
    have hsame := Nat.le_antisymm (hv ▸ hs) hl.source
    exact (hsnapshot (hv.trans hsame)).trans (hl.snapshot hsame).symm
  | select started source =>
    obtain ⟨hf, hs, hpass⟩ := h
    refine ⟨Nat.le_trans hf hl.started, Nat.le_trans hs hl.source, fun hvf hvs => ?_⟩
    have hsamef := Nat.le_antisymm (hvf ▸ hf) hl.started
    have hsames := Nat.le_antisymm (hvs ▸ hs) hl.source
    obtain ⟨r, hr⟩ := hpass (hvf.trans hsamef) (hvs.trans hsames)
    refine ⟨r, ?_⟩
    simp only [disturb, hl.record, hr, Engine.wanted, hl.flag hsamef, hl.snapshot hsames]

theorem sound_of_reachable {d d' : Drive S P H V} (h : Reachable trade factory d d')
    (hd : d.Sound trade factory) : d'.Sound trade factory := by
  induction h with
  | refl => exact hd
  | advance _ ih => exact sound_advance ih
  | disturb _ hm ih => exact sound_disturb ih hm

/-- **A task keeps up with whatever happens between its steps**: once it waits and has seen everything, its
last pass was one for the latest snapshot and flag. -/
theorem drive_keeps_up {w : World S P H V} {d : Drive S P H V} (h : Reachable trade factory ⟨.mark, w⟩ d)
    {started source : Watcher} (hphase : d.phase = .select started source)
    (hf : started.seen = d.world.engine.started.version) (hs : source.seen = d.world.source.version) :
    UpToDate trade factory d.world := by
  have hd : d.Sound trade factory := sound_of_reachable h trivial
  rw [Sound, hphase] at hd
  exact hd.2.2 hf hs

/-! ## without disturbance -/

variable (trade factory)

/-- Small steps of the task, one after the other. -/
def advances : Nat → Drive S P H V → Drive S P H V
  | 0, d => d
  | n + 1, d => advances n (d.advance trade factory)

/-- Where the task of an engine stands in its loop while it is not running. -/
def phaseOf : DriveTask → Phase S
  | .ready => .mark
  | .waiting started source => .select started source
  | .absent | .holding => .holding

/-- The wait ends with a change of either; with neither it goes on, unless the source is gone. -/
theorem advance_select (started source : Watcher) (w : World S P H V) :
    (⟨.select started source, w⟩ : Drive S P H V).advance trade factory =
      if w.engine.started.version ≠ started.seen ∨ w.source.version ≠ source.seen then ⟨.mark, w⟩
      else if w.source.live then ⟨.select started source, w⟩ else ⟨.holding, w⟩ := by
  simp only [advance, Watch.notice]
  by_cases hf : w.engine.started.version = started.seen <;> by_cases hs : w.source.version = source.seen <;>
    cases w.engine.started.live <;> cases w.source.live <;> simp [hf, hs]

theorem settle_waiting {e : Engine S P H V} {started seen : Watcher} (ht : e.task = .waiting started seen)
    (source : Watch S) :
    e.settle trade factory source =
      if e.started.version ≠ started.seen ∨ source.version ≠ seen.seen then e.passAndWait trade factory source
      else if source.live then e else { e with task := .holding } := by
  simp only [Engine.settle, ht, Watch.notice]
  by_cases hf : e.started.version = started.seen <;> by_cases hs : source.version = seen.seen <;>
    cases e.started.live <;> cases source.live <;> simp [hf, hs]

/-- From the mark on there is one pass, over what is there, and then nothing more to do. -/
theorem passAndWait_eq_drive (w : World S P H V) :
    ∃ n, let d := advances trade factory n ⟨.mark, w⟩
      d.advance trade factory = d ∧
        w.engine.passAndWait trade factory w.source = { d.world.engine with task := d.phase.task } := by
  let after : World S P H V := w.step trade factory (.reconcile w.source.value)
  have pass : advances trade factory 3 ⟨.mark, w⟩ =
      ⟨.select w.engine.started.subscribe w.source.subscribe, after⟩ := rfl
  have wait : advances trade factory 4 ⟨.mark, w⟩ =
      if w.source.live then ⟨.select w.engine.started.subscribe w.source.subscribe, after⟩
      else ⟨.holding, after⟩ := by
    refine (advance_select trade factory w.engine.started.subscribe w.source.subscribe after).trans (if_neg ?_)
    simp [after, World.step, Engine.reconcile, Engine.apply]
  cases hl : w.source.live with
  | true =>
    rw [hl, if_pos rfl] at wait
    refine ⟨3, ?_, ?_⟩
    · rw [pass]
      exact wait
    · rw [pass, Engine.passAndWait, hl]
      rfl
  | false =>
    rw [hl, if_neg (by decide)] at wait
    refine ⟨4, ?_, ?_⟩
    · rw [wait]
      rfl
    · rw [wait, Engine.passAndWait, hl]
      rfl

/-- **Letting the task run is what its small steps come to** when nothing happens in between. -/
theorem settle_eq_drive {w : World S P H V} (ht : w.engine.task ≠ .absent) :
    ∃ n, let d := advances trade factory n ⟨phaseOf w.engine.task, w⟩
      d.advance trade factory = d ∧
        w.engine.settle trade factory w.source = { d.world.engine with task := d.phase.task } := by
  have same : ∀ t, w.engine.task = t → w.engine = { w.engine with task := t } := by
    rintro _ rfl
    rfl
  cases hw : w.engine.task with
  | absent => exact absurd hw ht
  | holding =>
    refine ⟨0, rfl, ?_⟩
    rw [Engine.settle, hw]
    exact same _ hw
  | ready =>
    rw [Engine.settle, hw]
    exact passAndWait_eq_drive trade factory w
  | waiting started source =>
    have wait := advance_select trade factory started source w
    rw [settle_waiting trade factory hw]
    split at wait
    · rename_i hd
      obtain ⟨n, hn⟩ := passAndWait_eq_drive trade factory w
      refine ⟨n + 1, ?_⟩
      rw [if_pos hd, advances, phaseOf, wait]
      exact hn
    · rename_i hd
      rw [if_neg hd]
      split at wait
      · rename_i hl
        refine ⟨0, wait, ?_⟩
        rw [if_pos hl]
        exact same _ hw
      · rename_i hl
        refine ⟨1, ?_, ?_⟩ <;> rw [advances, phaseOf, wait]
        · rfl
        · rw [if_neg hl]
          rfl

end Drive

end ProxyKeeper

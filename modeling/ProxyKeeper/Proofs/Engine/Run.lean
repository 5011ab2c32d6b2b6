/-
Runs of an engine: any moves in any order, beside a source of snapshots that
its background task may follow (`World.run`).

Whatever moves are made, only passes write what an engine holds, its calls,
its count of passes and its view (its `Record`): `record_run` says that a run
leaves the record that its passes leave, one after the other. So what every
pass keeps, every run keeps (`record_induction`), and a fact about a run is a
fact about a list of passes.
-/
import ProxyKeeper.Engine.Basic
import ProxyKeeper.Proofs.Watch

namespace ProxyKeeper

variable {S P H V : Type}

/-! ## records -/

/-- What passes write: all of an engine but its flag and its task. -/
structure Record (P H V : Type) where
  held : H
  ledger : Ledger P
  generation : Nat
  view : Watch V

namespace Record

/-- The record of an engine that has run no pass. -/
def initial (trade : Trade S P H V) : Record P H V :=
  ⟨trade.nothing, .empty, 0, { value := trade.initialView }⟩

/-- What is held, and the calls. -/
def stock (r : Record P H V) : H × Ledger P := (r.held, r.ledger)

def pass (trade : Trade S P H V) (factory : Factory P) (r : Record P H V) (wanted : Option S) : Record P H V :=
  let (held, ledger) := trade.pass factory wanted (r.held, r.ledger)
  ⟨held, ledger, r.generation + 1, r.view.publish (trade.view (r.generation + 1) held)⟩

/-- What every pass keeps, a list of passes keeps. -/
theorem foldl_keeps (trade : Trade S P H V) (factory : Factory P) {I : Record P H V → Prop}
    (pass : ∀ r wanted, I r → I (r.pass trade factory wanted)) {r : Record P H V} (hr : I r)
    (passes : List (Option S)) : I (passes.foldl (Record.pass trade factory) r) :=
  List.foldlRecOn _ _ hr fun r h wanted _ => pass r wanted h

end Record

namespace Engine

def record (e : Engine S P H V) : Record P H V := ⟨e.held, e.ledger, e.generation, e.view⟩

/-- What a pass over a snapshot wants: nothing while the engine is stopped. -/
def wanted (e : Engine S P H V) (snapshot : S) : Option S := if e.isStarted then some snapshot else none

/-- Whether the background task has a pass to run. -/
def isDue (e : Engine S P H V) (source : Watch S) : Bool :=
  match e.task with
  | .absent | .holding => false
  | .ready => true
  | .waiting started seen => e.started.notice started = .changed || source.notice seen = .changed

section

variable (trade : Trade S P H V) (factory : Factory P) (source : Watch S) (e : Engine S P H V)

@[simp] theorem record_apply (wanted : Option S) :
    (e.apply trade factory wanted).record = e.record.pass trade factory wanted := rfl

@[simp] theorem record_setStarted (value : Bool) : (e.setStarted value).record = e.record := by
  rw [setStarted]; split <;> rfl

@[simp] theorem record_spawn : e.spawn.1.record = e.record := by
  rw [spawn]; split
  · rfl
  · split <;> rfl

/-- All that letting the task run can do: a pass, nothing, or noticing that the source is gone. -/
theorem settle_cases :
    (e.isDue source = true ∧ e.settle trade factory source = e.passAndWait trade factory source) ∨
      e.isDue source = false ∧ (e.settle trade factory source = e ∨
        source.live = false ∧ e.settle trade factory source = { e with task := .holding }) := by
  cases ht : e.task with
  | absent | holding => exact .inr ⟨by simp only [isDue, ht], .inl (by simp only [settle, ht])⟩
  | ready => exact .inl ⟨by simp only [isDue, ht], by simp only [settle, ht]⟩
  | waiting started seen =>
    simp only [isDue, settle, ht]
    cases hs : e.started.notice started with
    | changed => exact .inl ⟨rfl, rfl⟩
    | pending | closed =>
      cases hn : source.notice seen with
      | changed => exact .inl ⟨rfl, rfl⟩
      | pending => exact .inr ⟨rfl, .inl rfl⟩
      | closed => exact .inr ⟨rfl, .inr ⟨Watch.live_of_notice_closed hn, rfl⟩⟩

theorem record_settle :
    (e.settle trade factory source).record =
      if e.isDue source then e.record.pass trade factory (e.wanted source.value) else e.record := by
  rcases settle_cases trade factory source e with ⟨hd, h⟩ | ⟨hd, h | ⟨-, h⟩⟩ <;> rw [h, hd] <;> rfl

end

end Engine

/-! ## runs -/

/-- What may happen to an engine and to the source of its snapshots. -/
inductive Move (S : Type) where
  | start
  | stop
  /-- A pass that is asked for directly. -/
  | reconcile (snapshot : S)
  | spawn
  | publish (snapshot : S)
  /-- The publisher of snapshots goes away. -/
  | closeSource
  | settle
  | shutdown

/-- An engine beside the source of its snapshots. -/
structure World (S P H V : Type) where
  engine : Engine S P H V
  source : Watch S

namespace World

/-- A new engine. -/
def create (trade : Trade S P H V) (source : Watch S) : World S P H V := ⟨.create trade, source⟩

def step (trade : Trade S P H V) (factory : Factory P) (w : World S P H V) : Move S → World S P H V
  | .start => { w with engine := w.engine.start }
  | .stop => { w with engine := w.engine.stop }
  | .reconcile snapshot => { w with engine := w.engine.reconcile trade factory snapshot }
  | .spawn => { w with engine := w.engine.spawn.1 }
  | .publish snapshot => if w.source.live then { w with source := w.source.publish snapshot } else w
  | .closeSource => { w with source := w.source.close }
  | .settle => { w with engine := w.engine.settle trade factory w.source }
  | .shutdown => { w with engine := w.engine.shutdown trade factory w.source }

def run (trade : Trade S P H V) (factory : Factory P) (moves : List (Move S)) (w : World S P H V) :
    World S P H V :=
  moves.foldl (step trade factory) w

/-- What the passes of a move want, in order. -/
def passes (w : World S P H V) : Move S → List (Option S)
  | .reconcile snapshot => [w.engine.wanted snapshot]
  | .settle => if w.engine.isDue w.source then [w.engine.wanted w.source.value] else []
  | .shutdown => (if w.engine.task = .ready then [w.engine.wanted w.source.value] else []) ++ [none]
  | .start | .stop | .spawn | .publish _ | .closeSource => []

/-- What the passes of a run want, in order. -/
def passesOf (trade : Trade S P H V) (factory : Factory P) : List (Move S) → World S P H V → List (Option S)
  | [], _ => []
  | m :: rest, w => w.passes m ++ passesOf trade factory rest (w.step trade factory m)

variable (trade : Trade S P H V) (factory : Factory P)

theorem run_append (a b : List (Move S)) (w : World S P H V) :
    run trade factory (a ++ b) w = run trade factory b (run trade factory a w) := List.foldl_append

theorem passesOf_append (a b : List (Move S)) (w : World S P H V) :
    passesOf trade factory (a ++ b) w =
      passesOf trade factory a w ++ passesOf trade factory b (run trade factory a w) := by
  induction a generalizing w with
  | nil => rfl
  | cons m rest ih => simp only [List.cons_append, passesOf, ih, List.append_assoc]; rfl

theorem record_shutdown (w : World S P H V) :
    (w.engine.shutdown trade factory w.source).record =
      (w.passes .shutdown).foldl (Record.pass trade factory) w.engine.record := by
  simp only [Engine.shutdown, Engine.record_apply, Engine.record_setStarted, passes, List.foldl_append]
  split <;> rfl

/-- A move leaves the record that its passes leave. -/
theorem record_step (w : World S P H V) (m : Move S) :
    (w.step trade factory m).engine.record =
      (w.passes m).foldl (Record.pass trade factory) w.engine.record := by
  cases m with
  | start | stop => exact Engine.record_setStarted _ _
  | reconcile snapshot => rfl
  | spawn => exact Engine.record_spawn _
  | publish snapshot => rw [step]; split <;> rfl
  | closeSource => rfl
  | settle =>
    refine (Engine.record_settle trade factory w.source w.engine).trans ?_
    simp only [passes]
    split <;> rfl
  | shutdown => exact record_shutdown trade factory w

theorem record_run (moves : List (Move S)) (w : World S P H V) :
    (run trade factory moves w).engine.record =
      (passesOf trade factory moves w).foldl (Record.pass trade factory) w.engine.record := by
  induction moves generalizing w with
  | nil => rfl
  | cons m rest ih =>
    rw [passesOf, List.foldl_append, ← record_step]
    exact ih _

/-- A run leaves the record of its last pass. -/
theorem record_run_of_last {moves : List (Move S)} {w : World S P H V} {wanted : Option S}
    (h : (passesOf trade factory moves w).getLast? = some wanted) :
    ∃ done, passesOf trade factory moves w = done ++ [wanted] ∧
      (run trade factory moves w).engine.record =
        (done.foldl (Record.pass trade factory) w.engine.record).pass trade factory wanted := by
  obtain ⟨done, hdone⟩ := List.getLast?_eq_some_iff.mp h
  refine ⟨done, hdone, ?_⟩
  rw [record_run, hdone, List.foldl_append]
  rfl

/-- **What every pass keeps, every run keeps.** -/
theorem record_induction {I : Record P H V → Prop} (initial : I (.initial trade))
    (pass : ∀ r wanted, I r → I (r.pass trade factory wanted)) (source : Watch S) (moves : List (Move S)) :
    I (run trade factory moves (create trade source)).engine.record := by
  rw [record_run]
  exact Record.foldl_keeps trade factory pass initial _

end World

end ProxyKeeper

/-
The loop of a feed as a task of its own, with the sink that it delivers to. It
makes one step after the other with what it finds, and its end may be asked
for before any of them.

A task stands as its flags say (`Ingestion.LoopTask.advance_of_lost` and its
like): one that was asked to end does so where it waits (`ends_of_asked`), and
one that has lost its session looks first whether to go on. A loop that is let
run until it waits comes to nothing that its task does not come to by some
moves (`Rests.exists_run`).
-/
import ProxyKeeper.Proofs.Ingestion.Tasks
import ProxyKeeper.Proofs.Lists

namespace ProxyKeeper

open Feed

/-! ## what a loop waits for -/

namespace Feed.Loop

/-- A loop waits for its peer or for its time. -/
def Waits (l : Loop) : Prop := l.stage = .connecting ∨ l.stage = .streaming ∨ ∃ due, l.stage = .waiting due

theorem Waits.ne_ended {l : Loop} (hl : l.Waits) : l.stage ≠ .ended := by
  obtain hs | hs | ⟨due, hs⟩ := hl <;> simp [hs]

theorem lose_isSome_iff {l : Loop} {input : LoopInput} {s : Sink} : (l.lose input s).isSome ↔
    (l.stage = .connecting ∧ ∃ now, input = .answer now .refused) ∨
      l.stage = .streaming ∧ ∃ now frame, input = .frame now frame ∧ frame.received.end?.isSome := by
  cases input with
  | answer now h => cases h <;> by_cases hl : l.stage = .connecting <;> simp [lose, hl]
  | frame now f =>
    have hf : (∃ now' frame, LoopInput.frame now f = .frame now' frame ∧ frame.received.end?.isSome) ↔
        f.received.end?.isSome := ⟨fun ⟨_, _, he, h⟩ => by cases he; exact h, fun h => ⟨now, f, rfl, h⟩⟩
    rw [hf]
    by_cases hl : l.stage = .streaming <;> simp [lose, hl]
  | time now => simp [lose]

end Feed.Loop

/-! ## a loop as a task, by its flags -/

namespace Ingestion.LoopTask

variable {b : Backoff} {input : LoopInput} {l : LoopTask} {s : Sink}

theorem advance_of_fresh (hs : l.loop.stage = .fresh) (hl : l.lost = false) :
    l.advance b false input s = ({ l with loop := (l.loop.enter s).1 }, (l.loop.enter s).2) := by
  have hlose : l.loop.lose input s = none := by
    cases input with
    | answer now h => cases h <;> simp [Loop.lose, hs]
    | frame | time => simp [Loop.lose, hs]
  cases ha : l.asked <;> simp [advance, isAlive, Loop.advance, ha, hl, hs, hlose]

/-- Asked to end where it waits, it ends. -/
theorem advance_of_leaving (hs : l.loop.Waits) (ha : l.asked = true) :
    l.advance b false input s = ({ l with loop := (l.loop.exit s).1 }, (l.loop.exit s).2) := by
  rw [advance_of_asked (by rw [ha]; rfl)]
  obtain hs | hs | ⟨due, hs⟩ := hs <;> simp only [Loop.advance, hs, if_true]

/-- One that has lost its session, and is not asked to end, waits before another. -/
theorem advance_of_lost (hs : l.loop.stage ≠ .ended) (ha : l.asked = false) (hl : l.lost = true) :
    l.advance b false input s =
      ({ l with loop := (l.loop.backOff b input.now s).1, lost := false }, (l.loop.backOff b input.now s).2) := by
  simp [advance, isAlive, hs, ha, hl]

/-- One that loses its session, or cannot begin it, has yet to look whether it goes on. -/
theorem advance_of_losing (hs : l.loop.stage ≠ .ended) (ha : l.asked = false) (hl : l.lost = false) {r : Loop × Sink}
    (hr : l.loop.lose input s = some r) : l.advance b false input s = ({ l with loop := r.1, lost := true }, r.2) := by
  simp [advance, isAlive, hs, ha, hl, hr]

theorem advance_of_going (hs : l.loop.Waits) (ha : l.asked = false) (hl : l.lost = false)
    (hr : l.loop.lose input s = none) :
    l.advance b false input s =
      ({ l with loop := (l.loop.react b input s).1 }, (l.loop.react b input s).2) := by
  obtain hs | hs | ⟨due, hs⟩ := hs <;> simp [advance, isAlive, Loop.advance, hs, ha, hl, hr]

end Ingestion.LoopTask

namespace Feed

open Ingestion (LoopTask)

/-! ## a loop and its sink -/

/-- A loop as a task, with the sink that it delivers to. -/
structure Feeder where
  task : LoopTask
  sink : Sink

namespace Feeder

/-- What may happen to a loop: it is asked to end, or it goes on with what it finds. -/
inductive Move where
  | ask
  | go (input : LoopInput)

/-- A loop that has not yet run. -/
def start (url : Url) (s : Sink) : Feeder := ⟨{ loop := { url } }, s⟩

def step (b : Backoff) (f : Feeder) : Move → Feeder
  | .ask => { f with task := { f.task with asked := true } }
  | .go input => ⟨(f.task.advance b false input f.sink).1, (f.task.advance b false input f.sink).2⟩

def run (b : Backoff) (moves : List Move) (f : Feeder) : Feeder := moves.foldl (step b) f

abbrev stage (f : Feeder) : Stage := f.task.loop.stage

variable {b : Backoff} {f : Feeder} {input : LoopInput}

theorem isAlive_iff : f.task.isAlive = true ↔ f.stage ≠ .ended := by simp [LoopTask.isAlive, stage]

theorem step_of_ended (hs : f.stage = .ended) (b : Backoff) (input : LoopInput) : f.step b (.go input) = f := by
  have hdone : f.task.isAlive = false := Bool.eq_false_iff.2 fun ha => isAlive_iff.1 ha hs
  rw [step, LoopTask.advance_of_ended hdone]

theorem run_append (b : Backoff) (xs ys : List Move) (f : Feeder) : run b (xs ++ ys) f = run b ys (run b xs f) :=
  List.foldl_append

theorem asked_step (b : Backoff) (m : Move) (f : Feeder) :
    (f.step b m).task.asked = true ↔ f.task.asked = true ∨ m = .ask := by
  cases m with
  | ask => exact iff_of_true rfl (.inr rfl)
  | go input => simp [step, LoopTask.asked_advance]

theorem asked_run (b : Backoff) (moves : List Move) (f : Feeder) :
    (run b moves f).task.asked = true ↔ f.task.asked = true ∨ .ask ∈ moves :=
  foldl_flag_iff (fun f : Feeder => f.task.asked = true) (fun f m => asked_step b m f) moves f

theorem lost_step_iff (hs : f.task.loop.Waits) (ha : f.task.asked = false) (hl : f.task.lost = false) (b : Backoff)
    (input : LoopInput) :
    (f.step b (.go input)).task.lost = true ↔
      (f.stage = .connecting ∧ ∃ now, input = .answer now .refused) ∨
        f.stage = .streaming ∧ ∃ now frame, input = .frame now frame ∧ frame.received.end?.isSome := by
  refine Iff.trans ?_ (Loop.lose_isSome_iff (l := f.task.loop) (s := f.sink))
  cases hlose : f.task.loop.lose input f.sink with
  | none => simp [Feeder.step, LoopTask.advance_of_going hs ha hl hlose, hl]
  | some r =>
    simp [Feeder.step, LoopTask.advance_of_losing hs.ne_ended ha hl hlose]

/-! ## the end -/

def Move.isGo : Move → Bool
  | .ask => false
  | .go _ => true

/-- A loop that was asked to end is nearer to its end with every step. -/
theorem left_run (ha : f.task.asked = true) (b : Backoff) (later : List Move) :
    (run b later f).task.loop.left = f.task.loop.left - later.countP Move.isGo := by
  induction later generalizing f with
  | nil => rfl
  | cons m rest ih =>
    refine (ih (f := f.step b m) ((asked_step b m f).2 (.inl ha))).trans ?_
    cases m with
    | ask => simp [Feeder.step, Move.isGo]
    | go input =>
      have hflags : (f.task.asked || false) = true := by rw [ha]; rfl
      have hleft : (f.step b (.go input)).task.loop.left = f.task.loop.left - 1 := by
        rw [Feeder.step, LoopTask.advance_of_asked hflags]
        exact Loop.left_advance b input f.task.loop f.sink
      rw [hleft, List.countP_cons, Move.isGo]
      simp only [if_true]
      omega

theorem ends_of_asked (ha : f.task.asked = true) (b : Backoff) {later : List Move}
    (hl : 2 ≤ later.countP Move.isGo) : (run b later f).stage = .ended := by
  have hleft := left_run ha b later
  have hle : f.task.loop.left ≤ 2 := by
    rw [Loop.left]
    cases f.task.loop.stage <;> simp
  have hzero : (run b later f).task.loop.left = 0 := by omega
  rw [Loop.left] at hzero
  rw [stage]
  cases hs : (run b later f).task.loop.stage <;> rw [hs] at hzero <;> first | rfl | cases hzero

/-- A loop that has ended leaves its sink alone. -/
theorem run_of_ended (hs : f.stage = .ended) (b : Backoff) (later : List Move) :
    (run b later f).stage = .ended ∧ (run b later f).sink = f.sink := by
  induction later generalizing f with
  | nil => exact ⟨hs, rfl⟩
  | cons m rest ih =>
    have hstep : (f.step b m).stage = .ended ∧ (f.step b m).sink = f.sink := by
      cases m with
      | ask => exact ⟨hs, rfl⟩
      | go input =>
        rw [step_of_ended hs]
        exact ⟨hs, rfl⟩
    obtain ⟨hended, hsink⟩ := ih hstep.1
    exact ⟨hended, hsink.trans hstep.2⟩

/-! ## loops let run as a whole -/

/-- What may happen to a loop that is let run until it waits. -/
inductive Whole where
  | settle (now : Nat) (peer : Url → Handshake)
  | frames (now : Nat) (fs : List Frame)
  | cancel

/-- What a loop and its sink come to. -/
def Whole.run (b : Backoff) (r : Loop × Sink) : Whole → Loop × Sink
  | .settle now peer => r.1.settle b now peer r.2
  | .frames now fs => r.1.frames b now fs r.2
  | .cancel => ({ r.1 with stage := .ended }, r.1.cancel r.2)

theorem exists_run_input (b : Backoff) (input : LoopInput) (l : Loop) (s : Sink) :
    ∃ moves, run b moves ⟨{ loop := l }, s⟩ =
      ⟨{ loop := (l.advance b false input s).1 }, (l.advance b false input s).2⟩ := by
  obtain honce | htwice := LoopTask.advance_once_or_twice b input l s
  · refine ⟨[.go input], ?_⟩
    change Feeder.step b ⟨{ loop := l }, s⟩ (.go input) = _
    rw [Feeder.step, honce]
  · refine ⟨[.go input, .go input], ?_⟩
    change Feeder.step b (Feeder.step b ⟨{ loop := l }, s⟩ (.go input)) (.go input) = _
    simp only [Feeder.step, htwice]

theorem exists_run_inputs (b : Backoff) (inputs : List LoopInput) (l : Loop) (s : Sink) :
    ∃ moves, run b moves ⟨{ loop := l }, s⟩ =
      ⟨{ loop := (l.advances b false inputs s).1 }, (l.advances b false inputs s).2⟩ := by
  induction inputs generalizing l s with
  | nil => exact ⟨[], rfl⟩
  | cons input rest ih =>
    obtain ⟨first, hfirst⟩ := exists_run_input b input l s
    obtain ⟨more, hmore⟩ := ih (l.advance b false input s).1 (l.advance b false input s).2
    refine ⟨first ++ more, ?_⟩
    rw [run_append, hfirst, hmore]
    rfl

/-- A loop that was let run has ended, or its task is where it waits and was not asked to. -/
structure Rests (f : Feeder) (r : Loop × Sink) : Prop where
  loop : f.task.loop = r.1
  sink : f.sink = r.2
  going : r.1.stage ≠ .ended → f = ⟨{ loop := r.1 }, r.2⟩

theorem advances_of_ended {l : Loop} (hl : l.stage = .ended) (b : Backoff) (inputs : List LoopInput) (s : Sink) :
    l.advances b false inputs s = (l, s) := by
  induction inputs with
  | nil => rfl
  | cons input rest ih =>
    rw [Loop.advances, List.foldl_cons]
    dsimp only
    rw [Loop.advance_of_ended hl]
    exact ih

theorem Whole.run_of_ended {r : Loop × Sink} (hr : r.1.stage = .ended) (b : Backoff) (w : Whole) : w.run b r = r := by
  cases w with
  | settle now peer => rw [Whole.run, Loop.settle_eq_advances, advances_of_ended hr]
  | frames now fs =>
    obtain ⟨inputs, hi⟩ := Loop.frames_eq_advances b now fs r.1 r.2
    rw [Whole.run, hi, advances_of_ended hr]
  | cancel =>
    obtain ⟨⟨url, stage, attempt⟩, s⟩ := r
    cases hr
    rfl

theorem Rests.exists_step {r : Loop × Sink} (h : f.Rests r) (b : Backoff) (w : Whole) :
    ∃ moves, (run b moves f).Rests (w.run b r) := by
  by_cases hr : r.1.stage = .ended
  · exact ⟨[], by rwa [w.run_of_ended hr]⟩
  · have inputs : ∀ inputs, ∃ moves, (run b moves f).Rests (r.1.advances b false inputs r.2) := by
      intro inputs
      obtain ⟨moves, hrun⟩ := exists_run_inputs b inputs r.1 r.2
      rw [← h.going hr] at hrun
      exact ⟨moves, by rw [hrun], by rw [hrun], fun _ => hrun⟩
    cases w with
    | settle now peer =>
      rw [Whole.run, Loop.settle_eq_advances]
      exact inputs _
    | frames now fs =>
      obtain ⟨found, hi⟩ := Loop.frames_eq_advances b now fs r.1 r.2
      rw [Whole.run, hi]
      exact inputs found
    | cancel =>
      -- Asked to end, a loop ends with its second step.
      have hcancel := Loop.cancel_eq_advances b (.time 0) (.time 0) r.1 r.2
      simp only [Loop.advances, List.foldl_cons, List.foldl_nil] at hcancel
      have hrun : run b [.ask, .go (.time 0), .go (.time 0)] f =
          ⟨{ loop := { r.1 with stage := .ended }, asked := true }, r.1.cancel r.2⟩ := by
        have asked : ∀ (l : Loop) (s : Sink), Feeder.step b ⟨{ loop := l, asked := true }, s⟩ (.go (.time 0)) =
            ⟨{ loop := (l.advance b true (.time 0) s).1, asked := true }, (l.advance b true (.time 0) s).2⟩ :=
          fun l s => by rw [Feeder.step, LoopTask.advance_of_asked rfl]
        rw [h.going hr]
        show Feeder.step b (Feeder.step b ⟨{ loop := r.1, asked := true }, r.2⟩ (.go (.time 0))) (.go (.time 0)) = _
        rw [asked, asked, hcancel]
      exact ⟨_, by rw [hrun]; rfl, by rw [hrun]; rfl, fun hne => absurd rfl hne⟩

/-- Whatever a loop comes to that is let run, its task comes to by some moves. -/
theorem Rests.exists_run {r : Loop × Sink} (h : f.Rests r) (b : Backoff) (whole : List Whole) :
    ∃ moves, (run b moves f).Rests (whole.foldl (Whole.run b) r) := by
  induction whole generalizing f r with
  | nil => exact ⟨[], h⟩
  | cons w rest ih =>
    obtain ⟨first, hfirst⟩ := h.exists_step b w
    obtain ⟨more, hmore⟩ := ih hfirst
    exact ⟨first ++ more, by rwa [run_append]⟩

end Feeder

end Feed

end ProxyKeeper

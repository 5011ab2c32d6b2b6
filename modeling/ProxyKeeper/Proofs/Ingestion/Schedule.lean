/-
The ingestion whose tasks are let run as a whole, against its tasks in small
steps. Whatever the one comes to, the other comes to by some schedule of its
steps, with the same loop and the same sink (`exists_schedule`). So what is
so of every schedule is so of the ingestion.
-/
import ProxyKeeper.Proofs.Ingestion.Tasks

namespace ProxyKeeper.Ingestion

open Feed

variable {S : Type}

/-- What may happen to an ingestion and its source when each task is let run as a whole. -/
inductive WholeMove (S : Type) where
  | publish (value : S)
  | close
  /-- The task that follows the port runs until it waits. -/
  | settleTask
  /-- The loop runs until it waits. -/
  | settleLoop (now : Nat) (peer : Url → Handshake)
  | receive (now : Nat) (frames : List Frame)
  | shutdown

/-- An ingestion beside the source of its ports. -/
structure Whole (S : Type) where
  source : Watch S
  ingestion : Ingestion

namespace Whole

def step (portOf : S → Option UInt16) (w : Whole S) : WholeMove S → Whole S
  | .publish value => if w.source.live then { w with source := w.source.publish value } else w
  | .close => { w with source := w.source.close }
  | .settleTask => { w with ingestion := w.ingestion.settleTask portOf w.source }
  | .settleLoop now peer =>
    { w with ingestion := w.ingestion.withLoop (·.settle w.ingestion.settings.backoff now peer) }
  | .receive now frames => { w with ingestion := w.ingestion.receive now frames }
  | .shutdown => { w with ingestion := w.ingestion.shutdown portOf w.source }

def run (portOf : S → Option UInt16) (moves : List (WholeMove S)) (w : Whole S) : Whole S :=
  moves.foldl (step portOf) w

end Whole

namespace Tasks

/-- The tasks have the loop and the sink of the ingestion. The loop was not asked to end, and is where it waits. -/
structure Mirrors (t : Tasks S) (i : Ingestion) : Prop where
  settings : t.settings = i.settings
  sink : t.sink = i.sink
  loop : t.current = i.loop.map fun loop => { loop }

/-- The tasks stand where the ingestion stands. -/
structure Matches (t : Tasks S) (w : Whole S) : Prop extends Mirrors t w.ingestion where
  source : t.source = w.source
  cancelled : t.cancelled = true ↔ w.ingestion.task = .ended
  stand : match w.ingestion.task with
    | .ready => t.stand = .looking true
    | .waiting watcher => t.stand = .waiting ∧ t.watcher = watcher
    | .holding => t.stand = .holding
    | .ended => t.stand = .ended

variable {portOf : S → Option UInt16} {t : Tasks S} {i : Ingestion} {w : Whole S}

theorem Mirrors.address (h : t.Mirrors i) : t.address = i.address := by
  rw [Tasks.address, Ingestion.address, h.loop, Option.map_map]
  rfl

/-! ## loops -/

theorem exists_run_input {l : Loop} (hc : t.current = some { loop := l }) (hgoing : t.cancelled = false)
    (portOf : S → Option UInt16) (input : LoopInput) :
    ∃ small, t.run portOf small =
      { t with
        current := some { loop := (l.advance t.settings.backoff false input t.sink).1 }
        sink := (l.advance t.settings.backoff false input t.sink).2 } := by
  have hstep := step_run_of_current hc portOf input
  obtain honce | htwice := LoopTask.advance_once_or_twice t.settings.backoff input l t.sink
  · refine ⟨[.run input], ?_⟩
    change t.step portOf (.run input) = _
    simp only [hstep, hgoing, honce]
  · refine ⟨[.run input, .run input], ?_⟩
    change (t.step portOf (.run input)).step portOf (.run input) = _
    rw [hstep, step_run_of_current rfl]
    simp only [hgoing, htwice]

theorem exists_run_inputs {l : Loop} (hc : t.current = some { loop := l }) (hgoing : t.cancelled = false)
    (portOf : S → Option UInt16) (inputs : List LoopInput) :
    ∃ small, t.run portOf small =
      { t with
        current := some { loop := (l.advances t.settings.backoff false inputs t.sink).1 }
        sink := (l.advances t.settings.backoff false inputs t.sink).2 } := by
  induction inputs generalizing t l with
  | nil =>
    refine ⟨[], ?_⟩
    change t = { t with current := some { loop := l } }
    rw [← hc]
  | cons input rest ih =>
    obtain ⟨first, hfirst⟩ := exists_run_input hc hgoing portOf input
    obtain ⟨more, hmore⟩ := ih (t := t.run portOf first) (by rw [hfirst]) (by rw [hfirst]; exact hgoing)
    refine ⟨first ++ more, ?_⟩
    rw [run_append, hmore, hfirst]
    rfl

/-- A loop that was asked to end does so in two steps. -/
theorem run_asked {l : LoopTask} (hc : t.current = some l) (hasked : (l.asked || t.cancelled) = true)
    (portOf : S → Option UInt16) :
    t.run portOf [.run (.time 0), .run (.time 0)] =
      { t with
        current := some { l with loop := { l.loop with stage := .ended } }
        sink := l.loop.cancel t.sink } := by
  have hcancel := Loop.cancel_eq_advances t.settings.backoff (.time 0) (.time 0) l.loop t.sink
  simp only [Loop.advances, List.foldl_cons, List.foldl_nil] at hcancel
  change (t.step portOf (.run (.time 0))).step portOf (.run (.time 0)) = _
  rw [step_run_of_current hc, step_run_of_current rfl, LoopTask.advance_of_asked hasked]
  have hagain := LoopTask.advance_of_asked
    (l := { l with loop := (l.loop.advance t.settings.backoff true (.time 0) t.sink).1 }) hasked t.settings.backoff
    (.time 0) (l.loop.advance t.settings.backoff true (.time 0) t.sink).2
  simp only [hagain, hcancel]

/-- What the loop of the ingestion comes to by steps, the loop of the tasks comes to. -/
theorem Matches.exists_inputs (h : t.Matches w) {l : Loop} (hl : w.ingestion.loop = some l)
    (hgoing : t.cancelled = false) (portOf : S → Option UInt16) (inputs : List LoopInput) :
    ∃ small, (t.run portOf small).Matches { w with ingestion := { w.ingestion with
      loop := some (l.advances w.ingestion.settings.backoff false inputs w.ingestion.sink).1
      sink := (l.advances w.ingestion.settings.backoff false inputs w.ingestion.sink).2 } } := by
  have hc : t.current = some { loop := l } := by rw [h.loop, hl]; rfl
  obtain ⟨small, hrun⟩ := exists_run_inputs hc hgoing portOf inputs
  refine ⟨small, ?_⟩
  rw [hrun, ← h.settings, ← h.sink]
  exact ⟨⟨h.settings, rfl, rfl⟩, h.source, h.cancelled, h.stand⟩

/-! ## the follower -/

theorem Mirrors.wanted (h : t.Mirrors i) (port : Option UInt16) :
    Ingestion.wanted port { settings := t.settings, sink := t.sink } = i.wanted port := by
  rw [h.settings, h.sink]
  cases port <;> rfl

/-- The follower has come to rest, having seen all that is published, where the ingestion comes to. -/
structure Rested (t : Tasks S) (source : Watch S) (isOpen cancelled : Bool) (i : Ingestion) : Prop
    extends Mirrors t i where
  stand : t.stand = .rest isOpen
  watcher : t.watcher = source.subscribe
  source : t.source = source
  cancelled : t.cancelled = cancelled

/-- A follower that is about to open comes to rest with the loop that the ingestion opens. -/
theorem rested_of_opening {url : Option Url} {isOpen : Bool} (hs : t.stand = .opening url isOpen)
    (hc : t.current = none) {port : Option UInt16} (hurl : url = addressOf t.settings.endpoint port)
    (hw : t.watcher = t.source.subscribe) (task : ObserverTask) :
    (t.step portOf .follow).Rested t.source isOpen t.cancelled
      { settings := t.settings, loop := (openLoop url t.sink).1, sink := (openLoop url t.sink).2, task } := by
  have hfollow : t.step portOf .follow = t.openFeed url isOpen := by rw [step, follow, hs]
  rw [hfollow]
  cases url with
  | none =>
    refine ⟨⟨rfl, rfl, ?_⟩, rfl, hw, rfl, rfl⟩
    rw [openFeed, hc]
    rfl
  | some url =>
    rw [openFeed, connect_of_addressOf hurl]
    exact ⟨⟨rfl, rfl, rfl⟩, rfl, hw, rfl, rfl⟩

/-- What it comes to when the ingestion follows a port, the tasks come to. -/
theorem Mirrors.exists_follow (h : t.Mirrors i) {isOpen : Bool} (hs : t.stand = .looking isOpen)
    (portOf : S → Option UInt16) :
    ∃ small, (t.run portOf small).Rested t.source isOpen t.cancelled (i.follow (portOf t.source.value)) := by
  have hurl := Ingestion.wanted_eq (portOf t.source.value) i
  have hfollow : t.step portOf .follow = t.look portOf isOpen := by rw [step, follow, hs]
  rw [← h.settings] at hurl
  have hi : i.follow (portOf t.source.value) =
      let url := addressOf t.settings.endpoint (portOf t.source.value)
      let sink := (i.wanted (portOf t.source.value)).2
      if i.address = url then { i with sink }
      else
        { i with
          loop := (openLoop url (closeLoop i.loop sink)).1
          sink := (openLoop url (closeLoop i.loop sink)).2 } := by
    rw [Ingestion.follow, ← hurl]
    rfl
  rw [hi, ← h.address]
  rcases look_cases portOf isOpen t with ⟨ha, hl⟩ | ⟨ha, hc, hl⟩ | ⟨ha, l, hc, hl⟩ <;> rw [h.wanted] at hl
  · refine ⟨[.follow], ?_⟩
    show (t.step portOf .follow).Rested ..
    rw [if_pos ha, hfollow, hl]
    exact ⟨⟨h.settings, rfl, h.loop⟩, rfl, rfl, rfl, rfl⟩
  · refine ⟨[.follow, .follow], ?_⟩
    show ((t.step portOf .follow).step portOf .follow).Rested ..
    have hloop : i.loop = none := Option.map_eq_none_iff.1 (h.loop.symm.trans hc)
    rw [if_neg ha, hloop, hfollow, hl, ← h.settings]
    refine rested_of_opening rfl ?_ rfl rfl i.task
    exact hc
  · -- The loop that is there is asked to end, ends, and is given up before the other is opened.
    refine ⟨[.follow] ++ ([.run (.time 0), .run (.time 0)] ++ [.follow, .follow]), ?_⟩
    obtain ⟨loop, hloop, rfl⟩ := Option.map_eq_some_iff.1 (h.loop.symm.trans hc)
    rw [run_append, run_append]
    show ((((t.step portOf .follow).run portOf _).step portOf .follow).step portOf .follow).Rested ..
    rw [if_neg ha, hloop, hfollow, hl, run_asked rfl rfl, ← h.settings]
    exact rested_of_opening rfl rfl rfl rfl i.task

theorem Rested.waiting {source : Watch S} {cancelled : Bool} (h : t.Rested source true cancelled i)
    (hc : cancelled = false) : t.Matches ⟨source, { i with task := .waiting source.subscribe }⟩ :=
  ⟨⟨h.settings, h.sink, h.loop⟩, h.source, by simp [h.cancelled, hc], h.stand, h.watcher⟩

theorem Rested.holding {source : Watch S} {cancelled : Bool} (h : t.Rested source false cancelled i)
    (hc : cancelled = false) : t.Matches ⟨source, { i with task := .holding }⟩ :=
  ⟨⟨h.settings, h.sink, h.loop⟩, h.source, by simp [h.cancelled, hc], h.stand⟩

/-- The follower looks once more when it takes the source to be gone, and holds what there is then. -/
theorem Mirrors.exists_hold (h : t.Mirrors i) (hs : t.stand = .waiting) (hc : t.cancelled = false)
    (hn : t.source.notice t.watcher = .closed) (portOf : S → Option UInt16) :
    ∃ small, (t.run portOf small).Matches
      ⟨t.source, { i.follow (portOf t.source.value) with task := .holding }⟩ := by
  have hfollow : t.step portOf .follow = { t with stand := .looking false } := by simp [step, follow, hs, hc, hn]
  have hlook : Mirrors { t with stand := .looking false } i := ⟨h.settings, h.sink, h.loop⟩
  obtain ⟨small, hr⟩ := hlook.exists_follow rfl portOf
  refine ⟨.follow :: small, ?_⟩
  rw [run, List.foldl_cons, hfollow]
  exact hr.holding hc

/-- The follower looks at a source that it takes to be open. -/
theorem Mirrors.exists_followAndWait (h : t.Mirrors i) (hs : t.stand = .looking true) (hc : t.cancelled = false)
    (portOf : S → Option UInt16) :
    ∃ small, (t.run portOf small).Matches ⟨t.source, i.followAndWait portOf t.source⟩ := by
  obtain ⟨small, hr⟩ := h.exists_follow hs portOf
  rw [followAndWait]
  dsimp only
  cases hl : t.source.live with
  | true => exact ⟨small, hr.waiting hc⟩
  | false =>
    have hn : (t.run portOf small).source.notice (t.run portOf small).watcher = .closed := by
      rw [hr.source, hr.watcher, Watch.notice_of_seen rfl, hl]
      rfl
    obtain ⟨more, hm⟩ := hr.toMirrors.exists_hold hr.stand (hr.cancelled.trans hc) hn portOf
    rw [hr.source, ← run_append] at hm
    exact ⟨small ++ more, hm⟩

/-! ## every move -/

theorem Matches.exists_settleTask (h : t.Matches w) (portOf : S → Option UInt16) :
    ∃ small, (t.run portOf small).Matches (w.step portOf .settleTask) := by
  have hstand := h.stand
  have hopen : w.ingestion.task ≠ .ended → t.cancelled = false := fun hne =>
    Bool.eq_false_iff.2 fun hc => hne (h.cancelled.1 hc)
  rw [Whole.step, settleTask, ← h.source]
  cases hw : w.ingestion.task <;> rw [hw] at hstand
  case ready => exact h.toMirrors.exists_followAndWait hstand (hopen (by simp [hw])) portOf
  case waiting watcher =>
    obtain ⟨hstand, rfl⟩ := hstand
    have hc := hopen (by simp [hw])
    dsimp only
    split
    · have hfollow : t.step portOf .follow = { t with stand := .looking true } := by
        simp only [step, follow, *]
        rfl
      have hlook : Mirrors { t with stand := .looking true } w.ingestion :=
        ⟨h.settings, h.sink, h.loop⟩
      obtain ⟨small, hm⟩ := hlook.exists_followAndWait rfl hc portOf
      refine ⟨.follow :: small, ?_⟩
      rw [run, List.foldl_cons, hfollow]
      exact hm
    · exact ⟨[], h.source ▸ h⟩
    · exact h.toMirrors.exists_hold hstand hc ‹_› portOf
  case holding => exact ⟨[], h.source ▸ h⟩
  case ended => exact ⟨[], h.source ▸ h⟩

/-- A follower that leaves ends once its loop has. -/
theorem matches_of_leaving (hs : t.stand = .leaving) (hc : t.cancelled = true) (ha : t.isAlive = false) :
    (t.step portOf .follow).Matches
      ⟨t.source, { settings := t.settings, sink := t.sink.markIdle, loop := none, task := .ended }⟩ := by
  have hfollow : t.step portOf .follow = { t.giveUp with sink := t.sink.markIdle, stand := .ended } := by
    simp only [step, follow, hs, ha]
    rfl
  rw [hfollow]
  exact ⟨⟨rfl, rfl, rfl⟩, rfl, iff_of_true hc rfl, rfl⟩

/-- A follower at rest that is asked to end leaves its loop, and ends when that has. -/
theorem Mirrors.exists_shutdown (h : t.Mirrors i) {isOpen : Bool} (hs : t.stand = .rest isOpen)
    (portOf : S → Option UInt16) :
    ∃ small, (t.run portOf small).Matches ⟨t.source, { i with
      loop := none
      sink := ((i.loop.map (·.cancel i.sink)).getD i.sink).markIdle
      task := .ended }⟩ := by
  have hleave : (t.step portOf .cancel).step portOf .follow = Tasks.leave { t with cancelled := true } := by
    cases isOpen <;> simp [step, follow, hs, Stand.rest]
  rw [← h.settings, ← h.sink]
  cases hc : t.current with
  | none =>
    rw [Option.map_eq_none_iff.1 (h.loop.symm.trans hc)]
    refine ⟨[.cancel, .follow, .follow], ?_⟩
    show (Tasks.step portOf ((t.step portOf .cancel).step portOf .follow) .follow).Matches _
    rw [hleave]
    refine matches_of_leaving rfl rfl ?_
    rw [leave, isAlive, hc]
    rfl
  | some l =>
    obtain ⟨loop, hloop, rfl⟩ := Option.map_eq_some_iff.1 (h.loop.symm.trans hc)
    rw [hloop]
    refine ⟨[.cancel, .follow] ++ ([.run (.time 0), .run (.time 0)] ++ [.follow]), ?_⟩
    rw [run_append, run_append]
    show (Tasks.step portOf (Tasks.run portOf _ ((t.step portOf .cancel).step portOf .follow)) .follow).Matches _
    rw [hleave, leave, hc, run_asked rfl rfl]
    exact matches_of_leaving rfl rfl rfl

theorem Matches.exists_shutdown (h : t.Matches w) (hsound : t.Sound portOf) :
    ∃ small, (t.run portOf small).Matches (w.step portOf .shutdown) := by
  have hstand := h.stand
  rw [Whole.step, shutdown, ← h.source]
  cases hw : w.ingestion.task <;> rw [hw] at hstand
  case ready =>
    obtain ⟨small, hr⟩ := h.exists_follow hstand portOf
    obtain ⟨more, hm⟩ := hr.exists_shutdown hr.stand portOf
    rw [hr.source, ← run_append] at hm
    exact ⟨_, hm⟩
  case waiting watcher => exact h.toMirrors.exists_shutdown (show t.stand = .rest true from hstand.1) portOf
  case holding => exact h.toMirrors.exists_shutdown (show t.stand = .rest false from hstand) portOf
  case ended =>
    -- There is no loop any more, and the state is idle already.
    have hnone := (hsound.of_ended hstand).2
    have hloop : w.ingestion.loop = none := Option.map_eq_none_iff.1 (h.loop.symm.trans hnone)
    have hidle := (hsound.told.of_none hnone).1
    rw [h.sink] at hidle
    refine ⟨[], ?_⟩
    rw [if_neg (by decide), hloop]
    show t.Matches ⟨t.source, { w.ingestion with loop := none, sink := w.ingestion.sink.markIdle, task := .ended }⟩
    rw [Sink.markIdle_of_idle hidle, ← hloop, ← hw, h.source]
    exact h

/-- One move of the ingestion is some steps of its tasks. -/
theorem Matches.exists_step (h : t.Matches w) (hsound : t.Sound portOf) (m : WholeMove S) :
    ∃ small, (t.run portOf small).Matches (w.step portOf m) := by
  have hloop : ∀ l, w.ingestion.loop = some l → t.cancelled = false := fun l hl => by
    refine Bool.eq_false_iff.2 fun hc => ?_
    have hstand := h.stand
    rw [h.cancelled.1 hc] at hstand
    rw [Option.map_eq_none_iff.1 (h.loop.symm.trans (hsound.of_ended hstand).2)] at hl
    cases hl
  cases m with
  | publish value =>
    refine ⟨[.publish value], ?_⟩
    show (t.step portOf (.publish value)).Matches _
    rw [step, Whole.step, ← h.source]
    split
    · exact ⟨⟨h.settings, h.sink, h.loop⟩, rfl, h.cancelled, h.stand⟩
    · exact h
  | close =>
    exact ⟨[.close], ⟨h.settings, h.sink, h.loop⟩, congrArg Watch.close h.source, h.cancelled, h.stand⟩
  | settleTask => exact h.exists_settleTask portOf
  | settleLoop now peer =>
    rw [Whole.step, withLoop]
    cases hl : w.ingestion.loop with
    | none => exact ⟨[], h⟩
    | some l =>
      dsimp only
      rw [Loop.settle_eq_advances]
      exact h.exists_inputs hl (hloop l hl) portOf _
  | receive now frames =>
    rw [Whole.step, receive, withLoop]
    cases hl : w.ingestion.loop with
    | none => exact ⟨[], h⟩
    | some l =>
      obtain ⟨inputs, hi⟩ := Loop.frames_eq_advances w.ingestion.settings.backoff now frames l w.ingestion.sink
      dsimp only
      rw [hi]
      exact h.exists_inputs hl (hloop l hl) portOf inputs
  | shutdown => exact h.exists_shutdown hsound

theorem Matches.exists_run (h : t.Matches w) (hsound : t.Sound portOf) (moves : List (WholeMove S)) :
    ∃ small, (t.run portOf small).Matches (w.run portOf moves) := by
  induction moves generalizing t w with
  | nil => exact ⟨[], h⟩
  | cons m rest ih =>
    obtain ⟨first, hfirst⟩ := h.exists_step hsound m
    obtain ⟨more, hmore⟩ := ih hfirst (hsound.run first)
    rw [← run_append] at hmore
    exact ⟨_, hmore⟩

/-- **Whatever an ingestion comes to, its tasks come to by some schedule.** -/
theorem exists_schedule (portOf : S → Option UInt16) (settings : IngestSettings) (source : Watch S)
    (moves : List (WholeMove S)) :
    ∃ small, ((create settings source).run portOf small).Matches
      (Whole.run portOf moves ⟨source, .create settings⟩) :=
  have start : (create settings source).Matches ⟨source, .create settings⟩ :=
    ⟨⟨rfl, rfl, rfl⟩, rfl, by simp [create, Ingestion.create], rfl⟩
  start.exists_run (.create portOf settings source) moves

end Tasks

end ProxyKeeper.Ingestion

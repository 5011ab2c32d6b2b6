/-
What a loop publishes of the frames that it hears, and what they make of it.

A record is the one of a text frame that stands before the end of its session
(`recordsOf`). A step publishes what is heard with it and nothing else does
(`Feeder.events_go`): a loop that was asked to end, or that has lost its
session, hears nothing. A frame that does not end the session leaves the loop
where it is (`Loop.frame_of_not_end`). A loop that is let run over whole
sessions publishes the records of all (`Loop.events_attend`).
-/
import ProxyKeeper.Proofs.Feed.States

namespace ProxyKeeper.Feed

open Ingestion (LoopTask)

/-! ## scripts -/

namespace Frame

/-- Whether a frame ends its session. -/
def isEnd : Frame → Bool
  | .close _ | .broken _ => true
  | .text _ | .other => false

/-- The record that a frame carries. -/
def record? : Frame → Option Event
  | .text body => (Event.decode body).toOption
  | _ => none

theorem record?_of_isEnd {f : Frame} (hf : f.isEnd = true) : f.record? = none := by
  cases f with
  | text | other => cases hf
  | close | broken => rfl

theorem isSome_end?_received (f : Frame) : f.received.end?.isSome = f.isEnd := by
  cases f with
  | text | other | broken => rfl
  | close status =>
    cases status with
    | none => rfl
    | some status =>
      rw [received]
      split <;> rfl

end Frame

/-- The records that are found. -/
def LoopInput.records : LoopInput → List Event
  | .frame _ f => f.record?.toList
  | .answer .. | .time _ => []

/-- The records of a session: what its frames carry up to its end. -/
def recordsOf (frames : List Frame) : List Event := (frames.takeWhile fun f => !f.isEnd).filterMap Frame.record?

theorem recordsOf_cons (f : Frame) (rest : List Frame) :
    recordsOf (f :: rest) = if f.isEnd then [] else f.record?.toList ++ recordsOf rest := by
  cases he : f.isEnd with
  | true => simp [recordsOf, he]
  | false => cases hr : f.record? <;> simp [recordsOf, he, hr]

/-- What a frame gives, and what may still come after it. -/
theorem recordsOf_next (f : Frame) (rest : List Frame) :
    f.record?.toList ++ recordsOf (if f.isEnd then [] else rest) = recordsOf (f :: rest) := by
  rw [recordsOf_cons]
  cases he : f.isEnd with
  | true => simp [Frame.record?_of_isEnd he, recordsOf]
  | false => simp

/-- How the peer ends a session. -/
inductive Ending where
  | closed (status : Option (UInt16 × String))
  /-- By an error, or because nothing comes any more. -/
  | broken (cause : String)

def Ending.frame : Ending → Frame
  | .closed status => .close status
  | .broken cause => .broken cause

/-- How an attempt to connect goes. -/
inductive Attempt where
  | refused
  | session (frames : List Frame) (ending : Ending)

namespace Attempt

def answer : Attempt → Handshake
  | .refused => .refused
  | .session _ _ => .accepted

def frames : Attempt → List Frame
  | .refused => []
  | .session frames ending => frames ++ [ending.frame]

def records (a : Attempt) : List Event := recordsOf a.frames

end Attempt

/-! ## what is published -/

namespace Sink

@[simp] theorem events_note (n : Note) (s : Sink) : (s.note n).events = s.events := rfl

@[simp] theorem events_setState (next : State) (s : Sink) : (s.setState next).events = s.events := by
  rw [setState]
  split <;> rfl

@[simp] theorem events_markIdle (s : Sink) : s.markIdle.events = s.events := events_setState _ s

end Sink

@[simp] theorem Replay.publishAll_nil {α : Type} (c : Replay α) : c.publishAll [] = c := rfl

theorem Replay.publishAll_append {α : Type} (xs ys : List α) (c : Replay α) :
    c.publishAll (xs ++ ys) = (c.publishAll xs).publishAll ys := List.foldl_append

namespace Loop

variable {b : Backoff} {l : Loop} {s : Sink}

@[simp] theorem events_backOff (b : Backoff) (now : Nat) (l : Loop) (s : Sink) :
    (l.backOff b now s).2.events = s.events := by simp [backOff]

@[simp] theorem events_enter (l : Loop) (s : Sink) : (l.enter s).2.events = s.events := by simp [enter]

@[simp] theorem events_exit (l : Loop) (s : Sink) : (l.exit s).2.events = s.events := by simp [exit]

theorem events_answer (b : Backoff) (now : Nat) (h : Handshake) (l : Loop) (s : Sink) :
    (l.answer b now h s).2.events = s.events := by cases h <;> simp [answer]

theorem events_wake (now : Nat) (l : Loop) (s : Sink) : (l.wake now s).2.events = s.events := by
  rw [wake]
  split
  · split <;> simp
  · rfl

/-- A frame of a session publishes its record, if it carries one. -/
theorem events_frame (hl : l.stage = .streaming) (b : Backoff) (now : Nat) (f : Frame) :
    (l.frame b now f s).2.events = s.events.publishAll f.record?.toList := by
  rw [frame, if_neg (by simp [hl])]
  cases f with
  | text body =>
    simp only [Frame.received, Frame.record?]
    cases Event.decode body <;> rfl
  | other => rfl
  | broken cause => exact events_backOff ..
  | close status =>
    obtain ⟨status', hclose⟩ : ∃ status', (Frame.close status).received = .close status' := by
      cases status with
      | none => exact ⟨_, rfl⟩
      | some status =>
        rw [Frame.received]
        split <;> exact ⟨_, rfl⟩
    obtain ⟨cause, hcause⟩ : ∃ cause, (Frame.close status').end? = some cause := by
      cases status' <;> exact ⟨_, rfl⟩
    simp only [hclose, hcause]
    exact events_backOff ..

theorem lose_of_not_end {f : Frame} (hf : f.isEnd = false) (now : Nat) (l : Loop) (s : Sink) :
    l.lose (.frame now f) s = none := by
  rw [← Option.not_isSome_iff_eq_none, lose_isSome_iff]
  rintro (⟨-, now', h⟩ | ⟨-, now', f', h, hend⟩)
  · cases h
  · cases h
    rw [Frame.isSome_end?_received, hf] at hend
    cases hend

/-- A frame that does not end the session leaves the loop and its state where they are. -/
theorem frame_of_not_end {f : Frame} (hf : f.isEnd = false) (b : Backoff) (now : Nat) (l : Loop) (s : Sink) :
    (l.frame b now f s).1 = l ∧ (l.frame b now f s).2.state = s.state := by
  obtain ⟨hloop, hgains⟩ := frame_of_lose_eq_none (lose_of_not_end hf now l s) b
  exact ⟨hloop, hgains.watched⟩

theorem frame_of_stage_ne (hl : l.stage ≠ .streaming) (b : Backoff) (now : Nat) (f : Frame) :
    l.frame b now f s = (l, s) := by
  rw [frame, if_pos hl]

theorem events_react (b : Backoff) (input : LoopInput) (l : Loop) (s : Sink) :
    (l.react b input s).2.events = s.events.publishAll (if l.stage = .streaming then input.records else []) := by
  cases input with
  | answer now h =>
    rw [react, LoopInput.records, ite_self]
    split
    · exact events_answer ..
    · rfl
  | time now => rw [react, LoopInput.records, ite_self, events_wake, Replay.publishAll_nil]
  | frame now f =>
    rw [react, LoopInput.records]
    split
    · exact events_frame ‹_› b now f
    · rw [frame_of_stage_ne ‹_›, Replay.publishAll_nil]

theorem events_advance (b : Backoff) (asked : Bool) (input : LoopInput) (l : Loop) (s : Sink) :
    (l.advance b asked input s).2.events =
      s.events.publishAll (if asked = false ∧ l.stage = .streaming then input.records else []) := by
  have hreact := events_react b input l s
  simp only [advance]
  cases hs : l.stage with
  | ended => simp
  | fresh => simp
  | connecting | streaming | waiting =>
    cases asked with
    | true => simp
    | false => simpa [hs] using hreact

theorem wake_cases (now : Nat) (l : Loop) (s : Sink) :
    l.wake now s = (l, s) ∨ (l.wake now s).1.stage = .connecting := by
  rw [wake]
  split
  · split
    · exact .inr rfl
    · exact .inl rfl
  · exact .inl rfl

theorem advance_time (b : Backoff) (asked : Bool) (now : Nat) (l : Loop) (s : Sink) :
    (l.advance b asked (.time now) s).1.stage ≠ .streaming ∨ (l.advance b asked (.time now) s).1 = l := by
  simp only [advance]
  cases hs : l.stage with
  | ended => exact .inr rfl
  | fresh => exact .inl (by simp [enter])
  | connecting | streaming | waiting =>
    cases asked with
    | true => exact .inl (by simp [exit])
    | false =>
      refine (wake_cases now l s).symm.imp (fun h => ?_) fun h => congrArg Prod.fst h
      simp [react, h]

end Loop

namespace Feeder

variable {b : Backoff} {f : Feeder}

/-- A loop that would hear what comes: it was not asked to end, and has not lost its session. -/
structure Listens (f : Feeder) : Prop where
  asked : f.task.asked = false
  lost : f.task.lost = false

instance : Decidable f.Listens := decidable_of_iff (f.task.asked = false ∧ f.task.lost = false)
  ⟨fun ⟨ha, hl⟩ => ⟨ha, hl⟩, fun h => ⟨h.asked, h.lost⟩⟩

/-- What a loop publishes of what it finds. -/
def heard (f : Feeder) (input : LoopInput) : List Event :=
  if f.Listens ∧ f.stage = .streaming then input.records else []

/-- A step publishes what is heard with it, and nothing else. -/
theorem events_go (b : Backoff) (f : Feeder) (input : LoopInput) :
    (f.step b (.go input)).sink.events = f.sink.events.publishAll (f.heard input) := by
  by_cases hs : f.stage = .ended
  · simp [step_of_ended hs, heard, hs]
  · cases ha : f.task.asked with
    | true =>
      have hdeaf : ¬f.Listens := fun h => by cases ha.symm.trans h.asked
      simp [step, LoopTask.advance_of_asked, ha, heard, hdeaf, Loop.events_advance]
    | false =>
      cases hl : f.task.lost with
      | true =>
        have hdeaf : ¬f.Listens := fun h => by cases hl.symm.trans h.lost
        simp [step, LoopTask.advance_of_lost hs ha hl, heard, hdeaf]
      | false =>
        have hlistens : f.Listens := ⟨ha, hl⟩
        have hadvance := Loop.events_advance b false input f.task.loop f.sink
        cases hlose : f.task.loop.lose input f.sink with
        | none => simpa [step, LoopTask.advance, isAlive_iff.2 hs, ha, hl, hlose, heard, hlistens] using hadvance
        | some r =>
          rw [Loop.advance_of_lose hlose, Loop.events_backOff] at hadvance
          simpa [step, LoopTask.advance_of_losing hs ha hl hlose, heard, hlistens] using hadvance

/-! ## hearing a session -/

/-- A loop that has a session, and has not lost it. -/
structure Streams (f : Feeder) : Prop where
  stage : f.stage = .streaming
  lost : f.task.lost = false

/-- Time alone does not begin a session. -/
theorem task_time (b : Backoff) (now : Nat) (f : Feeder) :
    (f.step b (.go (.time now))).stage ≠ .streaming ∨ (f.step b (.go (.time now))).task = f.task := by
  have of_loop : ∀ {r : Loop × Sink}, (r.1.stage ≠ .streaming ∨ r.1 = f.task.loop) →
      r.1.stage ≠ .streaming ∨ ({ f.task with loop := r.1 } : LoopTask) = f.task :=
    fun h => h.imp_right fun hr => by rw [hr]
  by_cases hs : f.stage = .ended
  · exact .inr (by rw [step_of_ended hs])
  · cases ha : f.task.asked with
    | true =>
      rw [step, LoopTask.advance_of_asked (by rw [ha]; rfl)]
      exact of_loop (Loop.advance_time ..)
    | false =>
      cases hl : f.task.lost with
      | true => exact .inl (by simp [step, stage, LoopTask.advance_of_lost hs ha hl, Loop.backOff])
      | false =>
        have hgoes : f.step b (.go (.time now)) =
            ⟨{ f.task with loop := (f.task.loop.advance b false (.time now) f.sink).1 },
              (f.task.loop.advance b false (.time now) f.sink).2⟩ := by
          simp [step, LoopTask.advance, isAlive_iff.2 hs, ha, hl, Loop.lose]
        rw [hgoes]
        exact of_loop (Loop.advance_time ..)

theorem streams_of_time {now : Nat} (h : (f.step b (.go (.time now))).Streams) : f.Streams := by
  obtain hs | hsame := task_time b now f
  · exact absurd h.stage hs
  · exact ⟨(congrArg (·.loop.stage) hsame).symm.trans h.stage, hsame ▸ h.lost⟩

theorem Streams.time (h : f.Streams) (b : Backoff) (now : Nat) :
    (f.step b (.go (.time now))).stage = .ended ∨ (f.step b (.go (.time now))).Streams := by
  have hwaits : f.task.loop.Waits := .inr (.inl h.stage)
  cases ha : f.task.asked with
  | true => exact .inl (by simp [step, LoopTask.advance_of_leaving hwaits ha, Loop.exit])
  | false =>
    have hs : f.task.loop.stage = .streaming := h.stage
    have hlose : f.task.loop.lose (.time now) f.sink = none := rfl
    have hstep : f.step b (.go (.time now)) = f := by
      simp [step, LoopTask.advance_of_going hwaits ha h.lost hlose, Loop.react, Loop.wake, hs]
    exact .inr (hstep.symm ▸ h)

theorem frame_of_not_end (hs : f.stage = .streaming) (h : f.Listens) {frame : Frame} (hf : frame.isEnd = false)
    (b : Backoff) (now : Nat) : (f.step b (.go (.frame now frame))).task = f.task ∧
      (f.step b (.go (.frame now frame))).sink.state = f.sink.state := by
  have hlose := Loop.lose_of_not_end hf now f.task.loop f.sink
  obtain ⟨hloop, hstate⟩ := Loop.frame_of_not_end hf b now f.task.loop f.sink
  rw [step, LoopTask.advance_of_going (.inr (.inl hs)) h.asked h.lost hlose]
  exact ⟨by simp only [Loop.react, hloop], hstate⟩

theorem lost_frame (hs : f.stage = .streaming) (h : f.Listens) {frame : Frame} (hf : frame.isEnd = true) (b : Backoff)
    (now : Nat) : (f.step b (.go (.frame now frame))).task.lost = true := by
  refine (lost_step_iff (.inr (.inl hs)) h.asked h.lost b _).2 (.inr ⟨hs, now, frame, rfl, ?_⟩)
  rwa [Frame.isSome_end?_received]

theorem lost_refused (hs : f.stage = .connecting) (h : f.Listens) (b : Backoff) (now : Nat) :
    (f.step b (.go (.answer now .refused))).task.lost = true :=
  (lost_step_iff (.inl hs) h.asked h.lost b _).2 (.inl ⟨hs, now, rfl⟩)

theorem streams_accepted (hs : f.stage = .connecting) (h : f.Listens) (b : Backoff) (now : Nat) :
    (f.step b (.go (.answer now .accepted))).Streams := by
  have hl : f.task.loop.stage = .connecting := hs
  rw [step, LoopTask.advance_of_going (.inl hs) h.asked h.lost rfl]
  simp only [Loop.react, hl]
  exact ⟨rfl, h.lost⟩

end Feeder

/-! ## loops let run over whole sessions -/

namespace Loop

variable {b : Backoff} {l : Loop} {s : Sink}

/-- A loop that is let run over an attempt and its session. -/
def attend (b : Backoff) (r : Loop × Sink) (a : Attempt) : Loop × Sink :=
  let now := r.1.wake?.getD 0
  let r := r.1.settle b now (fun _ => a.answer) r.2
  r.1.frames b now a.frames r.2

theorem frames_cons (b : Backoff) (now : Nat) (f : Frame) (fs : List Frame) (l : Loop) (s : Sink) :
    l.frames b now (f :: fs) s = (l.frame b now f s).1.frames b now fs (l.frame b now f s).2 := rfl

theorem frames_of_stage_ne (hl : l.stage ≠ .streaming) (b : Backoff) (now : Nat) (fs : List Frame) (s : Sink) :
    l.frames b now fs s = (l, s) := by
  induction fs with
  | nil => rfl
  | cons f rest ih => rw [frames_cons, frame_of_stage_ne hl, ih]

theorem stage_frame_of_end (hl : l.stage = .streaming) {f : Frame} (hf : f.isEnd = true) (b : Backoff) (now : Nat)
    (s : Sink) : ∃ due, (l.frame b now f s).1.stage = .waiting due := by
  have hlost : (l.lose (.frame now f) s).isSome :=
    lose_isSome_iff.2 (.inr ⟨hl, now, f, rfl, by rwa [Frame.isSome_end?_received]⟩)
  obtain ⟨r, hr⟩ := Option.isSome_iff_exists.1 hlost
  have hlose := advance_of_lose hr b
  rw [← (frame_of_ne now f b l s (by simp [hl])).1] at hlose
  exact ⟨_, by rw [hlose]; rfl⟩

/-- A session that is heard to its end. -/
theorem frames_session (hl : l.stage = .streaming) {fs : List Frame} (hfs : ∃ f ∈ fs, f.isEnd = true) (b : Backoff)
    (now : Nat) (s : Sink) : (∃ due, (l.frames b now fs s).1.stage = .waiting due) ∧
      (l.frames b now fs s).2.events = s.events.publishAll (recordsOf fs) := by
  induction fs generalizing s with
  | nil => simp at hfs
  | cons f rest ih =>
    have hevents := events_frame (s := s) hl b now f
    rw [frames_cons, ← recordsOf_next, Replay.publishAll_append, ← hevents]
    cases he : f.isEnd with
    | true =>
      obtain ⟨due, hdue⟩ := stage_frame_of_end hl he b now s
      rw [frames_of_stage_ne (by simp [hdue])]
      exact ⟨⟨due, hdue⟩, rfl⟩
    | false =>
      rw [(frame_of_not_end he b now l s).1]
      refine ih ?_ _
      obtain ⟨g, hg, hend⟩ := hfs
      obtain rfl | hg := List.mem_cons.1 hg
      · cases he.symm.trans hend
      · exact ⟨g, hg, hend⟩

/-- A loop that begins an attempt, when it is let run. -/
theorem settle_of_due {now : Nat} (hl : l.stage = .fresh ∨ l.stage = .waiting now) (b : Backoff)
    (peer : Url → Handshake) (s : Sink) : ∃ (l' : Loop) (s' : Sink), l'.stage = .connecting ∧ s'.events = s.events ∧
      l.settle b now peer s = l'.answer b now (peer l'.url) s' := by
  obtain hs | hs := hl
  · exact ⟨(l.enter s).1, (l.enter s).2, rfl, events_enter l s, by simp [settle, hs, enter]⟩
  · let woken : Loop := { l with attempt := Backoff.next l.attempt }
    refine ⟨(woken.enter s).1, (woken.enter s).2, rfl, events_enter woken s, ?_⟩
    simp [settle, wake, hs, enter, woken]

theorem attend_of_due (hl : l.stage = .fresh ∨ ∃ due, l.stage = .waiting due) (b : Backoff) (s : Sink) (a : Attempt) :
    (∃ due, (attend b (l, s) a).1.stage = .waiting due) ∧
      (attend b (l, s) a).2.events = s.events.publishAll a.records := by
  have hdue : l.stage = .fresh ∨ l.stage = .waiting (l.wake?.getD 0) := by
    refine hl.imp_right ?_
    rintro ⟨due, hs⟩
    simp [wake?, hs]
  obtain ⟨l', s', hl', hevents, hsettle⟩ := settle_of_due hdue b (fun _ => a.answer) s
  simp only [attend, hsettle]
  cases a with
  | refused => exact ⟨⟨_, rfl⟩, by simpa [answer, frames, Attempt.answer, Attempt.frames, Attempt.records, recordsOf]⟩
  | session fs ending =>
    have hend : ∃ f ∈ fs ++ [ending.frame], f.isEnd = true := ⟨ending.frame, by simp, by cases ending <;> rfl⟩
    have := frames_session (l := { l' with stage := .streaming }) rfl hend b (l.wake?.getD 0) (s'.setState .streaming)
    rwa [Sink.events_setState, hevents] at this

/-- A loop that is let run over one session after the other publishes the records of all. -/
theorem events_attend (hl : l.stage = .fresh ∨ ∃ due, l.stage = .waiting due) (b : Backoff) (s : Sink)
    (script : List Attempt) :
    (script.foldl (attend b) (l, s)).2.events = s.events.publishAll (script.flatMap Attempt.records) := by
  induction script generalizing l s with
  | nil => rfl
  | cons a rest ih =>
    obtain ⟨hwaits, hevents⟩ := attend_of_due hl b s a
    rw [List.flatMap_cons, Replay.publishAll_append, ← hevents]
    exact ih (.inr hwaits) _

theorem events_cancel (l : Loop) (s : Sink) : (l.cancel s).events = s.events := by
  rw [cancel]
  split <;> simp

end Loop

end ProxyKeeper.Feed

/-
The records that a feed publishes, over all the sessions of its loop.

What the peer does is a script: how each attempt to connect goes, and what is
sent in the session, if there is one. A `Dialogue` is a loop that hears what
the script has for it, when it listens, and may be asked to end at any time.
The law is one equation that every move keeps (`Sound.step`): the records that
were published, and those that are still to come, are together the records of
the script. A loop that nobody asks to end has less left with each frame that
it hears, so that it can hear all (`Sound.exists_heard`).
-/
import ProxyKeeper.Proofs.Feed.Sessions

namespace ProxyKeeper.Feed

open Ingestion (LoopTask)

/-! ## scripts that are heard -/

/-- A loop, and what its peer has yet for it. -/
structure Dialogue where
  feeder : Feeder
  /-- What is to come of the session. -/
  frames : List Frame := []
  attempts : List Attempt

namespace Dialogue

/-- What may happen: the end of the loop is asked for, or the loop goes on, with what its peer has for it or without. -/
inductive Move where
  | ask
  | pass (now : Nat)
  | hear (now : Nat)

def start (url : Url) (s : Sink) (script : List Attempt) : Dialogue := { feeder := .start url s, attempts := script }

def pass (b : Backoff) (now : Nat) (d : Dialogue) : Dialogue :=
  { d with feeder := d.feeder.step b (.go (.time now)) }

/-- What follows the end of a session is never sent. -/
def hear (b : Backoff) (now : Nat) (d : Dialogue) : Dialogue :=
  if d.feeder.Listens then
    match d.feeder.stage, d.attempts, d.frames with
    | .connecting, a :: rest, _ => ⟨d.feeder.step b (.go (.answer now a.answer)), a.frames, rest⟩
    | .streaming, _, f :: rest =>
      ⟨d.feeder.step b (.go (.frame now f)), if f.isEnd then [] else rest, d.attempts⟩
    | _, _, _ => d.pass b now
  else d.pass b now

def step (b : Backoff) (d : Dialogue) : Move → Dialogue
  | .ask => { d with feeder := d.feeder.step b .ask }
  | .pass now => d.pass b now
  | .hear now => d.hear b now

def run (b : Backoff) (moves : List Move) (d : Dialogue) : Dialogue := moves.foldl (step b) d

/-- The records that the peer has yet. -/
def toCome (d : Dialogue) : List Event := recordsOf d.frames ++ d.attempts.flatMap Attempt.records

variable {b : Backoff} {d : Dialogue} {s : Sink} {script : List Attempt}

theorem hear_answer (h : d.feeder.Listens) (hs : d.feeder.stage = .connecting) {a : Attempt} {rest : List Attempt}
    (ha : d.attempts = a :: rest) (b : Backoff) (now : Nat) :
    d.hear b now = ⟨d.feeder.step b (.go (.answer now a.answer)), a.frames, rest⟩ := by
  simp only [hear, if_pos h, hs, ha]

theorem hear_frame (h : d.feeder.Listens) (hs : d.feeder.stage = .streaming) {f : Frame} {rest : List Frame}
    (hf : d.frames = f :: rest) (b : Backoff) (now : Nat) :
    d.hear b now = ⟨d.feeder.step b (.go (.frame now f)), if f.isEnd then [] else rest, d.attempts⟩ := by
  simp only [hear, if_pos h, hs, hf]

/-- A loop that does not wait for its peer, or for which the peer has nothing, goes on without. -/
theorem hear_cases (b : Backoff) (now : Nat) (d : Dialogue) :
    (d.feeder.Listens ∧ d.feeder.stage = .connecting ∧ ∃ a rest, d.attempts = a :: rest) ∨
      (d.feeder.Listens ∧ d.feeder.stage = .streaming ∧ ∃ f rest, d.frames = f :: rest) ∨
      (d.hear b now = d.pass b now ∧ (d.feeder.Listens → d.feeder.stage = .connecting → d.attempts = []) ∧
        (d.feeder.Listens → d.feeder.stage = .streaming → d.frames = [])) := by
  by_cases h : d.feeder.Listens
  · cases hs : d.feeder.stage with
    | connecting =>
      cases ha : d.attempts with
      | nil => exact .inr (.inr ⟨by simp only [hear, if_pos h, hs, ha], fun _ _ => rfl, fun _ hc => (by cases hc)⟩)
      | cons a rest => exact .inl ⟨h, rfl, a, rest, rfl⟩
    | streaming =>
      cases hf : d.frames with
      | nil => exact .inr (.inr ⟨by simp only [hear, if_pos h, hs, hf], fun _ hc => (by cases hc), fun _ _ => rfl⟩)
      | cons f rest => exact .inr (.inl ⟨h, rfl, f, rest, rfl⟩)
    | fresh | waiting | ended =>
      exact .inr (.inr ⟨by simp only [hear, if_pos h, hs], fun _ hc => (by cases hc), fun _ hc => (by cases hc)⟩)
  · exact .inr (.inr ⟨if_neg h, fun hl => absurd hl h, fun hl => absurd hl h⟩)

/-! ## the law -/

/-- What was published and what is to come are the script; where frames are to come there is a session, and where there
is a session its end is to come. -/
structure Sound (s : Sink) (script : List Attempt) (d : Dialogue) : Prop where
  law : ∃ records, d.feeder.sink.events = s.events.publishAll records ∧
    records ++ d.toCome = script.flatMap Attempt.records
  between : d.frames ≠ [] → d.feeder.stage = .ended ∨ d.feeder.Streams
  session : d.feeder.Streams → ∃ f ∈ d.frames, f.isEnd = true
  alive : d.feeder.task.asked = false → d.feeder.stage ≠ .ended

theorem Sound.start (url : Url) (s : Sink) (script : List Attempt) : (start url s script).Sound s script where
  law := ⟨[], rfl, rfl⟩
  between h := absurd rfl h
  session h := by cases h.stage
  alive _ h := by cases h

theorem alive_go {f : Feeder} (h : f.task.asked = false → f.stage ≠ .ended) (b : Backoff) (input : LoopInput)
    (ha : (f.step b (.go input)).task.asked = false) : (f.step b (.go input)).stage ≠ .ended := by
  have hasked : f.task.asked = false := by
    rwa [Feeder.step, LoopTask.asked_advance] at ha
  exact Feeder.isAlive_iff.1
    (LoopTask.isAlive_advance (Feeder.isAlive_iff.2 (h hasked)) (by simp [hasked]) b input f.sink)

theorem Sound.ask (h : d.Sound s script) (b : Backoff) : (d.step b .ask).Sound s script where
  law := h.law
  between hf := (h.between hf).imp_right fun hs => ⟨hs.stage, hs.lost⟩
  session hs := h.session ⟨hs.stage, hs.lost⟩
  alive ha := by cases ha

theorem Sound.pass (h : d.Sound s script) (b : Backoff) (now : Nat) : (d.pass b now).Sound s script where
  law := by
    obtain ⟨records, hevents, hlaw⟩ := h.law
    refine ⟨records, ?_, hlaw⟩
    rw [Dialogue.pass, Feeder.events_go, Feeder.heard]
    simpa [LoopInput.records] using hevents
  between hf := by
    obtain hended | hs := h.between hf
    · exact .inl (Feeder.run_of_ended hended b [.go (.time now)]).1
    · exact hs.time b now
  session hs := h.session (Feeder.streams_of_time hs)
  alive := alive_go h.alive b _

/-- The peer answers: there was no session, and now there is one with the frames that it has for it, or none. -/
theorem Sound.hear_answer (h : d.Sound s script) (hl : d.feeder.Listens) (hs : d.feeder.stage = .connecting)
    {a : Attempt} {rest : List Attempt} (ha : d.attempts = a :: rest) (b : Backoff) (now : Nat) :
    (d.hear b now).Sound s script := by
  obtain ⟨records, hevents, hlaw⟩ := h.law
  have hframes : d.frames = [] := by
    cases hf : d.frames with
    | nil => rfl
    | cons f tail =>
      obtain hended | hstreams := h.between (by simp [hf])
      · cases hs.symm.trans hended
      · cases hs.symm.trans hstreams.stage
  rw [Dialogue.hear_answer hl hs ha]
  refine {
    law := ⟨records, ?_, ?_⟩
    between := fun hf => ?_
    session := fun hstreams => ?_
    alive := alive_go h.alive b _ }
  · rw [Feeder.events_go, Feeder.heard]
    simpa [LoopInput.records] using hevents
  · rw [← hlaw, toCome, toCome, hframes, ha]
    rfl
  · cases a with
    | refused => exact absurd rfl hf
    | session frames ending => exact .inr (Feeder.streams_accepted hs hl b now)
  · cases a with
    | refused => cases hstreams.lost.symm.trans (Feeder.lost_refused hs hl b now)
    | session frames ending => exact ⟨ending.frame, by simp [Attempt.frames], by cases ending <;> rfl⟩

/-- A frame is heard: its record goes from those to come to those that were published. -/
theorem Sound.hear_frame (h : d.Sound s script) (hl : d.feeder.Listens) (hs : d.feeder.stage = .streaming)
    {f : Frame} {rest : List Frame} (hf : d.frames = f :: rest) (b : Backoff) (now : Nat) :
    (d.hear b now).Sound s script := by
  obtain ⟨records, hevents, hlaw⟩ := h.law
  rw [Dialogue.hear_frame hl hs hf]
  refine {
    law := ⟨records ++ f.record?.toList, ?_, ?_⟩
    between := fun hne => ?_
    session := fun hstreams => ?_
    alive := alive_go h.alive b _ }
  · rw [Feeder.events_go, Feeder.heard, if_pos ⟨hl, hs⟩, hevents, Replay.publishAll_append]
    rfl
  · rw [← hlaw, toCome, toCome, hf, ← recordsOf_next f rest]
    simp only [List.append_assoc]
  · cases he : f.isEnd with
    | true => simp [he] at hne
    | false =>
      obtain ⟨htask, -⟩ := Feeder.frame_of_not_end hs hl he b now
      exact .inr ⟨(congrArg (·.loop.stage) htask).trans hs, htask ▸ hl.lost⟩
  · cases he : f.isEnd with
    | true => cases hstreams.lost.symm.trans (Feeder.lost_frame hs hl he b now)
    | false =>
      obtain ⟨g, hg, hend⟩ := h.session ⟨hs, hl.lost⟩
      rw [hf, List.mem_cons] at hg
      obtain rfl | hg := hg
      · cases he.symm.trans hend
      · exact ⟨g, by simpa using hg, hend⟩

theorem Sound.hear (h : d.Sound s script) (b : Backoff) (now : Nat) : (d.hear b now).Sound s script := by
  obtain ⟨hl, hs, a, rest, ha⟩ | ⟨hl, hs, f, rest, hf⟩ | ⟨hpass, -, -⟩ := hear_cases b now d
  · exact h.hear_answer hl hs ha b now
  · exact h.hear_frame hl hs hf b now
  · exact hpass ▸ h.pass b now

theorem Sound.step (h : d.Sound s script) (b : Backoff) (m : Move) : (d.step b m).Sound s script := by
  cases m with
  | ask => exact h.ask b
  | pass now => exact h.pass b now
  | hear now => exact h.hear b now

theorem Sound.run (h : d.Sound s script) (b : Backoff) (moves : List Move) : (run b moves d).Sound s script := by
  induction moves generalizing d with
  | nil => exact h
  | cons m rest ih => exact ih (h.step b m)

theorem asked_step (b : Backoff) (m : Move) (d : Dialogue) :
    (d.step b m).feeder.task.asked = true ↔ d.feeder.task.asked = true ∨ m = .ask := by
  cases m with
  | ask => exact iff_of_true rfl (.inr rfl)
  | pass now => simp [step, pass, Feeder.asked_step]
  | hear now =>
    obtain ⟨hl, hs, a, rest, ha⟩ | ⟨hl, hs, f, rest, hf⟩ | ⟨hpass, -, -⟩ := hear_cases b now d
    · simp [step, hear_answer hl hs ha, Feeder.asked_step]
    · simp [step, hear_frame hl hs hf, Feeder.asked_step]
    · simp [step, hpass, pass, Feeder.asked_step]

theorem asked_run (b : Backoff) (moves : List Move) (d : Dialogue) :
    (run b moves d).feeder.task.asked = true ↔ d.feeder.task.asked = true ∨ .ask ∈ moves :=
  foldl_flag_iff (fun d : Dialogue => d.feeder.task.asked = true) (fun d m => asked_step b m d) moves d

/-- A loop that was asked to end publishes nothing more. -/
theorem events_run_of_asked (ha : d.feeder.task.asked = true) (b : Backoff) (later : List Move) :
    (run b later d).feeder.sink.events = d.feeder.sink.events := by
  induction later generalizing d with
  | nil => rfl
  | cons m rest ih =>
    have hdeaf : ¬d.feeder.Listens := fun h => by cases ha.symm.trans h.asked
    have hpass : ∀ now, (d.pass b now).feeder.sink.events = d.feeder.sink.events := by
      intro now
      rw [pass, Feeder.events_go, Feeder.heard, if_neg fun h => hdeaf h.1]
      rfl
    refine (ih ((asked_step b m d).2 (.inl ha))).trans ?_
    cases m with
    | ask => rfl
    | pass now => exact hpass now
    | hear now =>
      rw [step, hear, if_neg hdeaf]
      exact hpass now

/-! ## all is heard -/

/-- How much there is to do at most for the attempt or the session that the loop is at. -/
def begun (d : Dialogue) : Nat :=
  if d.feeder.task.lost then 2
  else
    match d.feeder.stage with
    | .fresh | .waiting _ => 1
    | .streaming => d.frames.length + 2
    | .connecting | .ended => 0

/-- How much there is to do at most until the script is heard. -/
def left (d : Dialogue) : Nat := (d.attempts.flatMap Attempt.frames).length + 3 * d.attempts.length + d.begun

theorem begun_of_lost (h : d.feeder.task.lost = true) : d.begun = 2 := if_pos h

theorem begun_of_streams (h : d.feeder.Streams) : d.begun = d.frames.length + 2 := by
  simp only [begun, h.lost, h.stage]
  rfl

theorem Sound.toCome_of_left (h : d.Sound s script) (ha : d.feeder.task.asked = false) (hleft : d.left = 0) :
    d.toCome = [] := by
  obtain ⟨hattempts, hbegun⟩ := Nat.add_eq_zero_iff.1 hleft
  have hnone : d.attempts = [] := by
    cases hs : d.attempts with
    | nil => rfl
    | cons a rest => simp [hs] at hattempts
  have hframes : d.frames = [] := by
    cases hf : d.frames with
    | nil => rfl
    | cons f rest =>
      obtain hended | hs := h.between (by simp [hf])
      · exact absurd hended (h.alive ha)
      · simp [begun, hs.lost, hs.stage] at hbegun
  rw [toCome, hnone, hframes]
  rfl

theorem begun_pass_of_lost (hs : d.feeder.stage ≠ .ended) (ha : d.feeder.task.asked = false)
    (hl : d.feeder.task.lost = true) (b : Backoff) (now : Nat) : (d.pass b now).begun < d.begun := by
  rw [begun_of_lost hl, pass, Feeder.step, LoopTask.advance_of_lost hs ha hl]
  simp [begun, Loop.backOff]

/-- A loop that listens, and that is new or whose wait is over, begins an attempt. -/
theorem begun_pass_of_due (hl : d.feeder.Listens) {now : Nat}
    (hs : d.feeder.stage = .fresh ∨ d.feeder.stage = .waiting now) (b : Backoff) : (d.pass b now).begun < d.begun := by
  have hbegun : d.begun = 1 := by
    obtain hs | hs := hs <;> simp [begun, hl.lost, hs]
  have hpass : (d.pass b now).feeder.task.lost = false ∧ (d.pass b now).feeder.stage = .connecting := by
    obtain hs | hs := hs
    · rw [pass, Feeder.step, LoopTask.advance_of_fresh hs hl.lost]
      exact ⟨hl.lost, rfl⟩
    · have hloop : d.feeder.task.loop.stage = .waiting now := hs
      rw [pass, Feeder.step, LoopTask.advance_of_going (.inr (.inr ⟨now, hs⟩)) hl.asked hl.lost rfl]
      simp [Loop.react, Loop.wake, hloop, Loop.enter, Feeder.stage, hl.lost]
  rw [hbegun, begun]
  simp [hpass.1, hpass.2]

/-- A loop that nobody asks to end, and that waits neither for its peer nor for a later time, gets on. -/
theorem Sound.begun_pass (h : d.Sound s script) (ha : d.feeder.task.asked = false) {now : Nat}
    (hdue : ∀ due, d.feeder.stage = .waiting due → due = now)
    (hconnecting : d.feeder.Listens → d.feeder.stage ≠ .connecting)
    (hquiet : d.feeder.Listens → d.feeder.stage = .streaming → d.frames = []) (b : Backoff) :
    (d.pass b now).begun < d.begun := by
  have halive := h.alive ha
  cases hlost : d.feeder.task.lost with
  | true => exact begun_pass_of_lost halive ha hlost b now
  | false =>
    have hl : d.feeder.Listens := ⟨ha, hlost⟩
    cases hs : d.feeder.stage with
    | ended => exact absurd hs halive
    | connecting => exact absurd hs (hconnecting hl)
    | fresh => exact begun_pass_of_due hl (.inl hs) b
    | waiting due => exact begun_pass_of_due hl (.inr (hdue due hs ▸ hs)) b
    | streaming =>
      obtain ⟨f, hf, -⟩ := h.session ⟨hs, hlost⟩
      simp [hquiet hl hs] at hf

/-- A loop that nobody asks to end, and that hears at the time that it waits for, has less left. -/
theorem Sound.left_hear (h : d.Sound s script) (ha : d.feeder.task.asked = false) (hleft : d.left ≠ 0) (b : Backoff) :
    (d.hear b (d.feeder.task.loop.wake?.getD 0)).left < d.left := by
  generalize hnow : d.feeder.task.loop.wake?.getD 0 = now
  obtain ⟨hl, hs, a, rest, hattempts⟩ | ⟨hl, hs, f, rest, hf⟩ | ⟨hpass, hnone, hquiet⟩ := hear_cases b now d
  · rw [Dialogue.hear_answer hl hs hattempts]
    have hnext : (⟨d.feeder.step b (.go (.answer now a.answer)), a.frames, rest⟩ : Dialogue).begun <
        a.frames.length + 3 := by
      cases a with
      | refused =>
        rw [begun_of_lost (Feeder.lost_refused hs hl b now)]
        omega
      | session frames ending =>
        rw [begun_of_streams (Feeder.streams_accepted hs hl b now)]
        exact Nat.lt_succ_self _
    simp only [left, hattempts, List.flatMap_cons, List.length_append, List.length_cons]
    omega
  · rw [Dialogue.hear_frame hl hs hf]
    refine Nat.add_lt_add_left ?_ _
    rw [begun_of_streams ⟨hs, hl.lost⟩, hf]
    cases he : f.isEnd with
    | true =>
      rw [begun_of_lost (Feeder.lost_frame hs hl he b now), List.length_cons]
      omega
    | false =>
      obtain ⟨htask, -⟩ := Feeder.frame_of_not_end hs hl he b now
      rw [begun_of_streams ⟨(congrArg (·.loop.stage) htask).trans hs, htask ▸ hl.lost⟩]
      simp
  · rw [hpass]
    refine Nat.add_lt_add_left (h.begun_pass ha (fun due hs => ?_) (fun hl hs => ?_) hquiet b) _
    · have hloop : d.feeder.task.loop.stage = .waiting due := hs
      simpa [Loop.wake?, hloop] using hnow
    · exact hleft (by simp [left, begun, hl.lost, hs, hnone hl hs])

/-- A loop that nobody asks to end can hear all. -/
theorem Sound.exists_heard (h : d.Sound s script) (ha : d.feeder.task.asked = false) (b : Backoff) :
    ∃ times : List Nat, (Dialogue.run b (times.map .hear) d).toCome = [] := by
  induction hn : d.left using Nat.strongRecOn generalizing d with
  | ind n ih =>
    by_cases hleft : d.left = 0
    · exact ⟨[], h.toCome_of_left ha hleft⟩
    · have hstill : (d.hear b (d.feeder.task.loop.wake?.getD 0)).feeder.task.asked = false := by
        refine Bool.eq_false_iff.2 fun hasked => ?_
        obtain h | h := (asked_step b (.hear _) d).1 hasked
        · cases ha.symm.trans h
        · cases h
      obtain ⟨times, htimes⟩ := ih _ (hn ▸ h.left_hear ha hleft b) (h.hear b _) hstill rfl
      exact ⟨d.feeder.task.loop.wake?.getD 0 :: times, htimes⟩

/-- What a loop has done, as its records. -/
theorem Sound.events_eq (h : d.Sound s script) (hcome : d.toCome = []) :
    d.feeder.sink.events = s.events.publishAll (script.flatMap Attempt.records) := by
  obtain ⟨records, hevents, hlaw⟩ := h.law
  rw [hcome, List.append_nil] at hlaw
  rw [hevents, hlaw]

/-- A frame that is no record changes nothing but the journal. -/
theorem hear_of_no_record (hl : d.feeder.Listens) (hs : d.feeder.stage = .streaming) {f : Frame} {rest : List Frame}
    (hf : d.frames = f :: rest) (he : f.isEnd = false) (hr : f.record? = none) (b : Backoff) (now : Nat) :
    ∃ sink, d.hear b now = ⟨⟨d.feeder.task, sink⟩, rest, d.attempts⟩ ∧ sink.state = d.feeder.sink.state ∧
      sink.events = d.feeder.sink.events := by
  obtain ⟨htask, hstate⟩ := Feeder.frame_of_not_end hs hl he b now
  refine ⟨(d.feeder.step b (.go (.frame now f))).sink, ?_, hstate, ?_⟩
  · rw [hear_frame hl hs hf, ← htask, he]
    rfl
  · rw [Feeder.events_go, Feeder.heard, if_pos ⟨hl, hs⟩, LoopInput.records, hr]
    rfl

end Dialogue

/-- **A feed publishes what its sessions carry**: at any point of any run, the records that were published and those
that are still to come are together, in order, the records of the sessions, and each run in which nobody asks for the
end can go on to where all are published. A frame of a session that is no record leaves all but the journal as it is,
and from the time when the end is asked for nothing is published. A loop that is let run over whole sessions publishes
the same. -/
theorem sessions_publish_records (b : Backoff) (url : Url) (s : Sink) (script : List Attempt) :
    (∀ moves, let d := Dialogue.run b moves (.start url s script)
      (∃ records, d.feeder.sink.events = s.events.publishAll records ∧
        records ++ d.toCome = script.flatMap Attempt.records) ∧
      (.ask ∉ moves → ∃ times : List Nat, (Dialogue.run b (times.map .hear) d).feeder.sink.events =
        s.events.publishAll (script.flatMap Attempt.records)) ∧
      (d.feeder.Listens → d.feeder.stage = .streaming → ∀ f rest, d.frames = f :: rest → f.isEnd = false →
        f.record? = none → ∀ now, ∃ sink, d.hear b now = ⟨⟨d.feeder.task, sink⟩, rest, d.attempts⟩ ∧
          sink.state = d.feeder.sink.state ∧ sink.events = d.feeder.sink.events) ∧
      (.ask ∈ moves → ∀ later, (Dialogue.run b later d).feeder.sink.events = d.feeder.sink.events)) ∧
    (script.foldl (Loop.attend b) ({ url }, s)).2.events = s.events.publishAll (script.flatMap Attempt.records) ∧
      ∀ l : Loop, (l.cancel s).events = s.events := by
  refine ⟨fun moves => ?_, Loop.events_attend (.inl rfl) b s script, fun l => l.events_cancel s⟩
  intro d
  have h : d.Sound s script := (Dialogue.Sound.start url s script).run b moves
  have hasked : d.feeder.task.asked = true ↔ .ask ∈ moves :=
    (Dialogue.asked_run b moves _).trans (or_iff_right fun h => by cases h)
  refine ⟨h.law, fun hm => ?_, fun hl hs f rest hf he hr now => Dialogue.hear_of_no_record hl hs hf he hr b now,
    fun hm => Dialogue.events_run_of_asked (hasked.2 hm) b⟩
  obtain ⟨times, htimes⟩ := h.exists_heard (Bool.eq_false_iff.2 fun ha => hm (hasked.1 ha)) b
  exact ⟨times, (h.run b _).events_eq htimes⟩

end ProxyKeeper.Feed

/-
The command that prints events, together with the feed that it follows.

All that the feed does to the command is publish records on the channel that
the command reads: following the port, connecting and waiting publish nothing
(`Ingestion.events_settle`), and frames publish the records that they carry
(`Ingestion.events_receive`). So the command at a feed is a viewing, with one
record published after the other and a poll after each move of the feed
(`Viewing.Mirrors`), and what holds of every viewing holds of it.
-/
import ProxyKeeper.Proofs.CommandLine.Limit
import ProxyKeeper.Proofs.Feed.Sessions

namespace ProxyKeeper

open Feed

/-! ## what a feed publishes -/

namespace Feed.Loop

theorem events_settle (b : Backoff) (now : Nat) (peer : Url → Handshake) (l : Loop) (s : Sink) :
    (l.settle b now peer s).2.events = s.events := by
  have hasked : ∀ r : Loop × Sink, r.2.events = s.events →
      (if r.1.stage = .connecting then r.1.answer b now (peer r.1.url) r.2 else r).2.events = s.events := by
    intro r hr
    split
    · rw [events_answer, hr]
    · exact hr
  rw [settle]
  refine hasked _ ?_
  split
  · exact events_enter l s
  · exact events_wake now l s
  · rfl
  · rfl
  · rfl

theorem events_frames (b : Backoff) (now : Nat) (fs : List Frame) (l : Loop) (s : Sink) :
    ∃ records, (l.frames b now fs s).2.events = s.events.publishAll records := by
  induction fs generalizing l s with
  | nil => exact ⟨[], rfl⟩
  | cons f rest ih =>
    obtain ⟨records, hrest⟩ := ih (l.frame b now f s).1 (l.frame b now f s).2
    by_cases hl : l.stage = .streaming
    · refine ⟨f.record?.toList ++ records, ?_⟩
      rw [frames_cons, hrest, events_frame hl, Replay.publishAll_append]
    · refine ⟨records, ?_⟩
      rw [frames_cons, hrest, frame_of_stage_ne hl]

end Feed.Loop

namespace Ingestion

theorem events_wanted (port : Option UInt16) (i : Ingestion) : (i.wanted port).2.events = i.sink.events := by
  cases port with
  | none => rfl
  | some p =>
    simp only [wanted]
    split <;> rfl

theorem events_closeLoop (l : Option Loop) (s : Sink) : (closeLoop l s).events = s.events := by
  cases l with
  | none => rfl
  | some l => exact Loop.events_cancel _ _

theorem events_openLoop (url : Option Url) (s : Sink) : (openLoop url s).2.events = s.events := by
  cases url with
  | none => exact Sink.events_markIdle s
  | some url => rfl

theorem events_follow (port : Option UInt16) (i : Ingestion) : (i.follow port).sink.events = i.sink.events := by
  simp only [follow]
  split
  · exact events_wanted port i
  · exact (events_openLoop _ _).trans ((events_closeLoop _ _).trans (events_wanted port i))

section

variable {S : Type} (portOf : S → Option UInt16) (source : Watch S)

theorem events_followAndWait (i : Ingestion) : (i.followAndWait portOf source).sink.events = i.sink.events := by
  simp only [followAndWait]
  split
  · exact events_follow _ i
  · exact (events_follow _ _).trans (events_follow _ i)

theorem events_settleTask (i : Ingestion) : (i.settleTask portOf source).sink.events = i.sink.events := by
  rw [settleTask]
  split
  · exact events_followAndWait portOf source i
  · split
    · exact events_followAndWait portOf source i
    · rfl
    · exact events_follow _ i
  · rfl
  · rfl

/-- A feed that settles publishes nothing. -/
theorem events_settle (now : Nat) (peer : Url → Handshake) (i : Ingestion) :
    (i.settle portOf source now peer).sink.events = i.sink.events := by
  rw [settle, withLoop]
  split
  · exact events_settleTask portOf source i
  · exact (Loop.events_settle ..).trans (events_settleTask portOf source i)

end

/-- Frames publish records. -/
theorem events_receive (now : Nat) (fs : List Frame) (i : Ingestion) :
    ∃ records, (i.receive now fs).sink.events = i.sink.events.publishAll records := by
  rw [receive, withLoop]
  split
  · exact ⟨[], rfl⟩
  · exact Loop.events_frames ..

end Ingestion

namespace CommandLine.Viewing

/-! ## the command at a feed -/

variable {before : List Event} {live window limit : Nat} {style : Report.Style} {s : Viewing} {v : Viewer}

/-- A viewing prints what the command prints, and until the command has ended it is at the same channel. -/
structure Mirrors (s : Viewing) (v : Viewer) : Prop where
  printer : s.printer = v.printer
  channel : s.printer.ended = false → s.session.channel = v.ingestion.sink.events
  batches : s.printer.ended = false → s.session.batches = v.batches
  now : s.printer.ended = false → s.session.now = v.now

theorem Mirrors.ask (h : s.Mirrors v) : (s.step .poll).Mirrors v.ask := by
  cases he : s.printer.ended with
  | true =>
    have hask : v.ask = v := by
      rw [Viewer.ask, if_pos (h.printer ▸ he)]
    rwa [step_of_ended he, hask]
  | false =>
    have hv : ¬ v.printer.ended = true := by
      rw [← h.printer, he]
      exact Bool.false_ne_true
    have hpoll : v.batches.poll v.now v.ingestion.sink.events =
        s.session.batches.poll s.session.now s.session.channel := by
      rw [h.batches he, h.now he, h.channel he]
    simp only [step_poll he, Viewer.ask, if_neg hv, hpoll]
    exact ⟨by rw [h.printer], fun _ => h.channel he, fun _ => rfl, fun _ => h.now he⟩

/-- A record that is published on the channel is published in the viewing. -/
theorem Mirrors.publish (hs : s.Sound before live window) (h : s.Mirrors v) {i : Ingestion} {e : Event}
    (hi : i.sink.events = v.ingestion.sink.events.publish e) :
    (s.step (.publish e)).Mirrors { v with ingestion := i } := by
  cases he : s.printer.ended with
  | true =>
    rw [step_of_ended he]
    exact ⟨h.printer, fun hf => (by rw [he] at hf; cases hf), h.batches, h.now⟩
  | false =>
    simp only [step_publish he, Session.step, hs.opened, Bool.false_eq_true, if_false]
    exact ⟨h.printer, fun _ => (congrArg (Replay.publish e) (h.channel he)).trans hi.symm, h.batches, h.now⟩

theorem Mirrors.publishAll (hs : s.Sound before live window) (h : s.Mirrors v) {i : Ingestion} {records : List Event}
    (hi : i.sink.events = v.ingestion.sink.events.publishAll records) :
    (run (records.map .publish) s).Mirrors { v with ingestion := i } := by
  induction records generalizing s v with
  | nil => exact ⟨h.printer, fun he => (h.channel he).trans hi.symm, h.batches, h.now⟩
  | cons e rest ih =>
    have hnext := h.publish (e := e) hs
      (i := { v.ingestion with sink := { v.ingestion.sink with events := v.ingestion.sink.events.publish e } }) rfl
    have hrest := ih (hs.step (.publish e)) hnext hi
    exact hrest

/-- Time that passes for the command passes in the viewing. -/
theorem Mirrors.later (h : s.Mirrors v) (wake : Nat) :
    (s.step (.advance (wake - v.now))).Mirrors { v with now := max v.now wake } := by
  cases he : s.printer.ended with
  | true =>
    rw [step_of_ended he]
    exact ⟨h.printer, h.channel, h.batches, fun hf => (by rw [he] at hf; cases hf)⟩
  | false =>
    rw [step_advance he]
    refine ⟨h.printer, h.channel, h.batches, fun _ => ?_⟩
    show s.session.now + (wake - v.now) = max v.now wake
    rw [h.now he]
    omega

theorem Mirrors.settle (h : s.Mirrors v) (peer : Url → Handshake) : (s.step .poll).Mirrors (v.settle peer) :=
  Mirrors.ask ⟨h.printer, fun he => (h.channel he).trans (Ingestion.events_settle ..).symm, h.batches, h.now⟩

theorem Mirrors.receive (hs : s.Sound before live window) (h : s.Mirrors v) (frames : List Frame) :
    ∃ records : List Event, ((run (records.map .publish) s).step .poll).Mirrors (v.receive frames) := by
  obtain ⟨records, hi⟩ := Ingestion.events_receive v.now frames v.ingestion
  exact ⟨records, (h.publishAll hs hi).ask⟩

/-- The command at a feed, from any moment on, is a viewing that nobody interrupts. -/
theorem Mirrors.watch (hs : s.Sound before live window) (h : s.Mirrors v) (frames : List Frame) (fuel : Nat) :
    ∃ acts, Act.interrupt ∉ acts ∧ (run acts s).Mirrors (v.watch frames fuel) := by
  induction fuel generalizing s v with
  | zero => exact ⟨[], List.not_mem_nil, h⟩
  | succ fuel ih =>
    have hsettled := h.settle fun _ => .accepted
    rw [Viewer.watch]
    generalize hheard : (if (v.settle fun _ => .accepted).isStreaming && !v.isStreaming then
        (v.settle fun _ => .accepted).receive frames else v.settle fun _ => .accepted) = next
    have hnext : ∃ acts, Act.interrupt ∉ acts ∧ (run acts s).Mirrors next := by
      rw [← hheard]
      split
      · obtain ⟨records, hr⟩ := hsettled.receive (hs.step .poll) frames
        refine ⟨.poll :: (records.map .publish ++ [.poll]), by simp, ?_⟩
        show (run (records.map .publish ++ [.poll]) (s.step .poll)).Mirrors _
        rwa [run_append]
      · exact ⟨[.poll], by simp, hsettled⟩
    obtain ⟨acts, hno, hacts⟩ := hnext
    show ∃ acts, _ ∧ (run acts s).Mirrors (if next.printer.ended then next else _)
    split
    · exact ⟨acts, hno, hacts⟩
    · split
      · rename_i wake _
        obtain ⟨more, hnone, hmore⟩ := ih ((hs.run acts).step (.advance (wake - next.now))) (hacts.later wake)
        refine ⟨acts ++ .advance (wake - next.now) :: more, by simp [hno, hnone], ?_⟩
        rwa [run_append]
      · exact ⟨acts, hno, hacts⟩

theorem Mirrors.start (settings : IngestSettings) (port : UInt16) (style : Report.Style) (limit : Option Nat) :
    (start settings.window settings.history settings.live [] style limit).Mirrors
      (.start settings port style limit) := ⟨rfl, fun _ => rfl, fun _ => rfl, fun _ => rfl⟩

/-- **The command at a feed prints up to the quota**: whatever frames the peer sends in each session, what the
command has printed are lines of events, one each, and no more of them than the quota; it ends with the quota and
not before. -/
theorem watch_prints_up_to_quota (settings : IngestSettings) (port : UInt16) (style : Report.Style) (limit : Nat)
    (frames : List Frame) (fuel : Nat) :
    let p := ((Viewer.start settings port style (some limit)).watch frames fuel).printer
    ∃ events : List Event, p.lines = events.map (Report.event style) ∧ events.length = p.seen ∧
      p.seen ≤ quota limit ∧ (p.ended = true ↔ p.seen = quota limit) := by
  intro p
  have hstart := Sound.start settings.window settings.history settings.live [] style (some limit)
  have htells := Tells.start settings.window settings.history settings.live [] style limit
  obtain ⟨acts, hno, h⟩ := (Mirrors.start settings port style (some limit)).watch hstart frames fuel
  generalize hs : run acts (Viewing.start settings.window settings.history settings.live [] style (some limit)) = s at h
  have ht : s.Tells style limit := hs ▸ htells.run hstart acts
  have hi : s.interrupted = false := hs ▸ interrupted_run hno _
  have hp : s.printer = p := h.printer
  rw [← hp]
  exact ⟨s.session.returned.flatten.take (quota limit), ht.lines, by rw [ht.seen, List.length_take], ht.seen_le,
    ht.ended_iff hi⟩

end CommandLine.Viewing

end ProxyKeeper

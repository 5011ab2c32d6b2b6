/-
How many events the command that prints them prints.

The command compares what it has printed with the limit after each event, so
it goes on to the limit exactly, or to the first event if the limit is 0
(`quota`). A batch is printed as far as the quota leaves room
(`printEvents_eq_take`); so what was printed is, after any number of batches,
the first part of what they hold together (`Viewing.Tells`), wherever the
batches were cut.

What was handed out is printed when its window ends, which is one window
after the next poll at the latest (`Viewing.Ripe`).
-/
import Mathlib.Algebra.GroupWithZero.Nat
import ProxyKeeper.CommandLine.Printer
import ProxyKeeper.Proofs.Feed.Batches

namespace ProxyKeeper

/-! ## polls while more may come -/

namespace Feed.Batches

variable {α : Type} {now : Nat} {c : Replay α} {b : Batches α}

/-- While more may come a poll gives away what is pending when the window has ended, and else keeps it. -/
theorem poll_of_open (hc : c.isClosed = false) (now : Nat) (b : Batches α) :
    b.poll now c =
      if (b.gather now c).deadline.any (· ≤ now) then (b.gather now c).flush else (b.gather now c, .pending) := by
  rw [poll_eq, answer, hc]
  rfl

/-- A window that is open stays as it is. -/
theorem gather_deadline {d : Nat} (hd : b.deadline = some d) (hp : b.pending ≠ []) :
    (b.gather now c).deadline = some d := by
  simp [gather, hd, hp]

/-- The window that is open when all that is there was taken ends within a window's time. -/
theorem gather_deadline_le {window : Nat} (hlength : b.window = window)
    (hd : ∀ d, b.deadline = some d → d ≤ now + window) :
    ∀ d, (b.gather now c).deadline = some d → d ≤ now + window := by
  intro d h
  simp only [gather] at h
  split at h
  · cases h
    rw [hlength]
  · exact hd d h

end Feed.Batches

namespace CommandLine

open Feed

/-- How many events are printed at a limit. -/
def quota (limit : Nat) : Nat := max limit 1

/-! ## one batch -/

/-- A batch is printed up to the quota, and the quota is reached if the batch holds so many. -/
theorem printEvents_eq_take (style : Report.Style) {limit seen : Nat} (hseen : seen < quota limit)
    (events : List Event) :
    printEvents style (some limit) seen events =
      (min (quota limit) (seen + events.length),
        (events.take (quota limit - seen)).map (Report.event style),
        decide (quota limit ≤ seen + events.length)) := by
  induction events generalizing seen with
  | nil =>
    have hnot : ¬ quota limit ≤ seen := Nat.not_le.2 hseen
    have hmin : min (quota limit) seen = seen := Nat.min_eq_right hseen.le
    simp [printEvents, hnot, hmin]
  | cons e rest ih =>
    have htake : quota limit - seen = quota limit - (seen + 1) + 1 := by omega
    rw [printEvents, htake, List.take_succ_cons, List.map_cons, List.length_cons]
    by_cases hreached : limit ≤ seen + 1
    · have hquota : quota limit = seen + 1 := by
        rw [quota] at hseen ⊢
        omega
      simp [hreached, hquota]
    · have hnext : seen + 1 < quota limit := by
        rw [quota]
        omega
      have hsum : seen + 1 + rest.length = seen + (rest.length + 1) := by omega
      simp only [Option.any_some, decide_eq_true_eq, if_neg hreached, ih hnext, hsum]

/-! ## the command at a feed -/

/-- A feed with the reader that the command has at it, what the command prints, and whether somebody ended it. -/
structure Viewing where
  session : Session Event
  printer : Printer
  interrupted : Bool := false

namespace Viewing

/-- What may happen while the command is at work. -/
inductive Act where
  | publish (e : Event)
  | advance (ms : Nat)
  | poll
  | interrupt

/-- How much time passes. -/
def Act.elapsed : Act → Nat
  | .advance ms => ms
  | .publish _ | .poll | .interrupt => 0

def start (window history live : Nat) (before : List Event) (style : Report.Style) (limit : Option Nat) : Viewing :=
  ⟨.start window history live before, { style, limit }, false⟩

/-- Nothing happens any more once the command has ended, which lets go of the feed. -/
def step (s : Viewing) (act : Act) : Viewing :=
  if s.printer.ended then s
  else
    match act with
    | .publish e => { s with session := s.session.step (.publish e) }
    | .advance ms => { s with session := s.session.step (.advance ms) }
    | .poll =>
      { s with
        session := s.session.step .poll
        printer := s.printer.hear (s.session.batches.poll s.session.now s.session.channel).2 }
    | .interrupt => { s with printer := s.printer.interrupt, interrupted := true }

def run (acts : List Act) (s : Viewing) : Viewing := acts.foldl step s

theorem run_append (acts more : List Act) (s : Viewing) : run (acts ++ more) s = run more (run acts s) :=
  List.foldl_append

theorem step_of_ended {s : Viewing} (h : s.printer.ended = true) (act : Act) : s.step act = s := by
  unfold step
  exact if_pos h

theorem step_publish {s : Viewing} (h : s.printer.ended = false) (e : Event) :
    s.step (.publish e) = { s with session := s.session.step (.publish e) } := by
  simp [step, h]

theorem step_advance {s : Viewing} (h : s.printer.ended = false) (ms : Nat) :
    s.step (.advance ms) = { s with session := s.session.step (.advance ms) } := by
  simp [step, h]

theorem step_poll {s : Viewing} (h : s.printer.ended = false) :
    s.step .poll =
      { s with
        session := s.session.step .poll
        printer := s.printer.hear (s.session.batches.poll s.session.now s.session.channel).2 } := by
  simp [step, h]

theorem step_interrupt {s : Viewing} (h : s.printer.ended = false) :
    s.step .interrupt = { s with printer := s.printer.interrupt, interrupted := true } := by
  simp [step, h]

theorem run_of_ended {s : Viewing} (h : s.printer.ended = true) (acts : List Act) : run acts s = s := by
  induction acts with
  | nil => rfl
  | cons act rest ih =>
    show run rest (s.step act) = s
    rw [step_of_ended h, ih]

/-! ## the reader -/

variable {before : List Event} {live window limit : Nat} {style : Report.Style} {s : Viewing}

/-- Each step is one of the reader, or none. -/
theorem session_step (s : Viewing) (act : Act) :
    (s.step act).session = s.session ∨ ∃ a, (s.step act).session = s.session.step a := by
  cases he : s.printer.ended with
  | true => exact .inl (by rw [step_of_ended he])
  | false =>
    cases act with
    | publish e => exact .inr ⟨.publish e, by rw [step_publish he]⟩
    | advance ms => exact .inr ⟨.advance ms, by rw [step_advance he]⟩
    | poll => exact .inr ⟨.poll, by rw [step_poll he]⟩
    | interrupt => exact .inl (by rw [step_interrupt he])

/-- What the reader has been handed and what is there for it. -/
def delivered (s : Viewing) : List Event :=
  s.session.handed ++ s.session.batches.source.available s.session.channel

/-- What holds of the reader while the command is at work. -/
structure Sound (before : List Event) (live window : Nat) (s : Viewing) : Prop where
  session : s.session.Sound before live
  opened : s.session.channel.isClosed = false
  length : s.session.batches.window = window
  /-- The open window ends within a window's time. -/
  deadline : ∀ d, s.session.batches.deadline = some d → d ≤ s.session.now + window

theorem Sound.start (window history live : Nat) (before : List Event) (style : Report.Style) (limit : Option Nat) :
    (start window history live before style limit).Sound before live window where
  session := .start window history live before
  opened := by
    obtain ⟨-, -, -, hhandles⟩ := (Replay.Holds.create (α := Event) history live).publishAll before
    show (((Replay.create history live).publishAll before).handles == 0) = false
    rw [hhandles]
    rfl
  length := rfl
  deadline d hd := by cases hd

theorem Sound.step (h : s.Sound before live window) (act : Act) : (s.step act).Sound before live window := by
  cases he : s.printer.ended with
  | true => rwa [step_of_ended he]
  | false =>
    cases act with
    | publish e =>
      rw [step_publish he]
      have hs := h.session.step (.publish e)
      have hpublish : s.session.step (.publish e) =
          { s.session with channel := s.session.channel.publish e, published := s.session.published ++ [e] } := by
        simp [Session.step, h.opened]
      rw [hpublish] at hs ⊢
      exact ⟨hs, h.opened, h.length, h.deadline⟩
    | advance ms =>
      rw [step_advance he]
      refine ⟨h.session.step (.advance ms), h.opened, h.length, fun d hd => ?_⟩
      have hle := h.deadline d hd
      show d ≤ s.session.now + ms + window
      omega
    | poll =>
      rw [step_poll he]
      have hpoll := Batches.poll_of_open h.opened s.session.now s.session.batches
      refine ⟨h.session.step .poll, h.opened, ?_, fun d hd => ?_⟩
      · show (s.session.batches.poll s.session.now s.session.channel).1.window = window
        rw [hpoll]
        split <;> exact h.length
      · have hd : (s.session.batches.poll s.session.now s.session.channel).1.deadline = some d := hd
        rw [hpoll] at hd
        split at hd
        · cases hd
        · exact Batches.gather_deadline_le h.length h.deadline d hd
    | interrupt =>
      rw [step_interrupt he]
      exact ⟨h.session, h.opened, h.length, h.deadline⟩

theorem Sound.run (h : s.Sound before live window) (acts : List Act) : (run acts s).Sound before live window := by
  induction acts generalizing s with
  | nil => exact h
  | cons act rest ih => exact ih (h.step act)

/-! ## what is printed -/

/-- What is printed is the first part of what the batches hold together, up to the quota; and the command has
ended if it printed so many, or if somebody ended it. -/
structure Tells (style : Report.Style) (limit : Nat) (s : Viewing) : Prop where
  styled : s.printer.style = style
  limited : s.printer.limit = some limit
  seen : s.printer.seen = min (quota limit) s.session.returned.flatten.length
  lines : s.printer.lines = (s.session.returned.flatten.take (quota limit)).map (Report.event style)
  ended : s.printer.ended = true ↔ s.interrupted = true ∨ quota limit ≤ s.session.returned.flatten.length

theorem Tells.start (window history live : Nat) (before : List Event) (style : Report.Style) (limit : Nat) :
    (start window history live before style (some limit)).Tells style limit where
  styled := rfl
  limited := rfl
  seen := (Nat.min_zero _).symm
  lines := by
    show [] = ([].take _).map _
    rw [List.take_nil, List.map_nil]
  ended := by
    have hpos : ¬ quota limit ≤ 0 := Nat.not_le.2 (Nat.lt_of_lt_of_le Nat.zero_lt_one (Nat.le_max_right _ _))
    simpa [Viewing.start, Session.start] using hpos

/-- While the command is at work the batches hold less than the quota. -/
theorem Tells.lt_of_open (h : s.Tells style limit) (he : s.printer.ended = false) :
    s.interrupted = false ∧ s.session.returned.flatten.length < quota limit := by
  have hnot := mt h.ended.2 (by rw [he]; exact Bool.false_ne_true)
  obtain ⟨hi, hlt⟩ := not_or.1 hnot
  exact ⟨Bool.eq_false_iff.2 hi, Nat.lt_of_not_le hlt⟩

/-- A batch that the printer hears goes on where the last one ended. -/
theorem Tells.hear (h : s.Tells style limit) (he : s.printer.ended = false) {t : Session Event} {batch : List Event}
    (ht : t.returned = s.session.returned ++ [batch]) :
    ({ s with session := t, printer := s.printer.hear (.item batch) } : Viewing).Tells style limit := by
  have hflat : t.returned.flatten = s.session.returned.flatten ++ batch := by
    rw [ht, List.flatten_append, List.flatten_singleton]
  obtain ⟨hi, hlt⟩ := h.lt_of_open he
  have hseen : s.printer.seen = s.session.returned.flatten.length := by rw [h.seen, Nat.min_eq_right hlt.le]
  have hprint := printEvents_eq_take style (hseen ▸ hlt) batch
  simp only [Printer.hear, h.styled, h.limited, hprint]
  refine ⟨rfl, rfl, ?_, ?_, ?_⟩
  · rw [hflat, List.length_append, hseen]
  · have hall : s.session.returned.flatten.take (quota limit) = s.session.returned.flatten :=
      List.take_of_length_le hlt.le
    show s.printer.lines ++ _ = _
    rw [h.lines, hall, hseen, hflat, List.take_append, List.map_append, hall]
  · show decide _ = true ↔ _
    rw [hflat, List.length_append, hseen, decide_eq_true_eq]
    simp [hi]

/-- A command that nobody ends is at its end when it has printed the quota. -/
theorem Tells.ended_iff (h : s.Tells style limit) (hi : s.interrupted = false) :
    s.printer.ended = true ↔ s.printer.seen = quota limit := by
  rw [h.ended, hi, or_iff_right Bool.false_ne_true, h.seen]
  exact ⟨Nat.min_eq_left, fun hmin => hmin ▸ Nat.min_le_right _ _⟩

theorem Tells.seen_le (h : s.Tells style limit) : s.printer.seen ≤ quota limit := by
  rw [h.seen]
  exact Nat.min_le_left _ _

theorem Tells.step (hs : s.Sound before live window) (h : s.Tells style limit) (act : Act) :
    (s.step act).Tells style limit := by
  cases he : s.printer.ended with
  | true => rwa [step_of_ended he]
  | false =>
    cases act with
    | publish e =>
      have hreturned : (s.session.step (.publish e)).returned = s.session.returned := by
        simp only [Session.step]
        split <;> rfl
      rw [step_publish he]
      exact ⟨h.styled, h.limited, by rw [hreturned]; exact h.seen, by rw [hreturned]; exact h.lines,
        by rw [hreturned]; exact h.ended⟩
    | advance ms =>
      rw [step_advance he]
      exact ⟨h.styled, h.limited, h.seen, h.lines, h.ended⟩
    | poll =>
      simp only [step_poll he, Session.step,
        Batches.poll_of_open hs.opened]
      split
      · exact h.hear he rfl
      · simp only [Session.after, Printer.hear, Delivery.item?, Option.toList_none, List.append_nil]
        exact ⟨h.styled, h.limited, h.seen, h.lines, h.ended⟩
    | interrupt =>
      rw [step_interrupt he]
      exact ⟨h.styled, h.limited, h.seen, h.lines, by simp [Printer.interrupt]⟩

theorem Tells.run (hs : s.Sound before live window) (h : s.Tells style limit) (acts : List Act) :
    (run acts s).Tells style limit := by
  induction acts generalizing s with
  | nil => exact h
  | cons act rest ih => exact ih (hs.step act) (h.step hs act)

/-! ## in time -/

/-- The reader once it has taken all that is there. -/
def gathered (s : Viewing) : Batches Event := s.session.batches.gather s.session.now s.session.channel

theorem length_pending_gathered (s : Viewing) : s.gathered.pending.length =
    s.session.batches.pending.length + (s.session.batches.source.available s.session.channel).length :=
  List.length_append

/-- What a poll of the command at work comes to: all that is there is taken, and either the window has ended and all
that was pending is one more batch, or it stays pending. -/
theorem Sound.poll_cases (hs : s.Sound before live window) (he : s.printer.ended = false) :
    (s.gathered.deadline.any (· ≤ s.session.now) = true ∧
        (s.step .poll).session.returned = s.session.returned ++ [s.gathered.pending]) ∨
      (s.gathered.deadline.any (· ≤ s.session.now) = false ∧ (s.step .poll).session.batches = s.gathered ∧
        (s.step .poll).session.returned = s.session.returned) := by
  have hpoll := Batches.poll_of_open hs.opened s.session.now s.session.batches
  have hstep : (s.step .poll).session = s.session.step .poll := by rw [step_poll he]
  rw [hstep, Session.step, Session.after, hpoll]
  show s.gathered.deadline.any _ = true ∧ _ ∨ _
  cases hd : s.gathered.deadline.any (· ≤ s.session.now) with
  | true => exact .inl ⟨rfl, by rw [gathered] at hd; rw [if_pos hd]; rfl⟩
  | false =>
    have hd' : ¬ s.gathered.deadline.any (· ≤ s.session.now) = true := Bool.eq_false_iff.1 hd
    rw [gathered] at hd'
    exact .inr ⟨rfl, by rw [if_neg hd']; rfl, by rw [if_neg hd']; exact List.append_nil _⟩

/-- The command has ended, or what it has got and what is pending make up the quota and the open window ends by
this time. -/
def Ripe (limit due : Nat) (s : Viewing) : Prop :=
  s.printer.ended = true ∨ ∃ d, s.session.batches.deadline = some d ∧ d ≤ due ∧
    quota limit ≤ s.session.returned.flatten.length + s.session.batches.pending.length

/-- A poll that finds the quota made up prints it, or leaves it for the end of the window. -/
theorem Tells.ripe_poll (hs : s.Sound before live window) (h : s.Tells style limit) {due d : Nat}
    (hd : s.gathered.deadline = some d) (hdue : d ≤ due)
    (hq : quota limit ≤ s.session.returned.flatten.length + s.gathered.pending.length) :
    (s.step .poll).Ripe limit due ∧ (d ≤ s.session.now → (s.step .poll).printer.ended = true) := by
  cases he : s.printer.ended with
  | true =>
    rw [step_of_ended he]
    exact ⟨.inl he, fun _ => he⟩
  | false =>
    rcases hs.poll_cases he with ⟨-, hr⟩ | ⟨hopen, hb, hr⟩
    · have ended : (s.step .poll).printer.ended = true := by
        refine (h.step hs .poll).ended.2 (.inr ?_)
        rw [hr, List.flatten_append, List.flatten_singleton, List.length_append]
        exact hq
      exact ⟨.inl ended, fun _ => ended⟩
    · refine ⟨.inr ⟨d, by rw [hb]; exact hd, hdue, by rw [hb, hr]; exact hq⟩, fun hle => ?_⟩
      simp [hd, hle] at hopen

/-- Once there is enough for the quota, the next poll has it printed within a window. -/
theorem Tells.ripens (hs : s.Sound before live window) (h : s.Tells style limit)
    (hq : quota limit ≤ s.delivered.length) : (s.step .poll).Ripe limit (s.session.now + window) := by
  cases he : s.printer.ended with
  | true =>
    rw [step_of_ended he]
    exact .inl he
  | false =>
    have hcount : quota limit ≤ s.session.returned.flatten.length + s.gathered.pending.length := by
      have hlossless := congrArg List.length hs.session.lossless
      rw [delivered, List.length_append, ← hlossless, List.length_append] at hq
      rwa [length_pending_gathered, ← Nat.add_assoc]
    have hdeadline : s.gathered.deadline.isSome = true := by
      have hwindow := hs.session.window
      have hlt := (h.lt_of_open he).2
      cases hp : s.session.batches.pending with
      | nil =>
        have hne : s.session.batches.source.available s.session.channel ≠ [] := fun hnil => by
          rw [length_pending_gathered, hp, hnil] at hcount
          exact Nat.lt_irrefl _ (Nat.lt_of_lt_of_le hlt hcount)
        simp [gathered, Batches.gather, hp, hne]
      | cons e rest =>
        rw [hp] at hwindow
        obtain ⟨d, hd⟩ := Option.isSome_iff_exists.1 hwindow
        rw [gathered, Batches.gather_deadline hd (by rw [hp]; exact List.cons_ne_nil _ _)]
        rfl
    obtain ⟨d, hd⟩ := Option.isSome_iff_exists.1 hdeadline
    exact (h.ripe_poll hs hd (Batches.gather_deadline_le hs.length hs.deadline d hd) hcount).1

theorem Ripe.poll (hs : s.Sound before live window) (ht : s.Tells style limit) {due : Nat} (h : s.Ripe limit due) :
    (s.step .poll).Ripe limit due ∧ (due ≤ s.session.now → (s.step .poll).printer.ended = true) := by
  rcases h with he | ⟨d, hd, hdue, hq⟩
  · rw [step_of_ended he]
    exact ⟨.inl he, fun _ => he⟩
  · have hp : s.session.batches.pending ≠ [] := fun hnil => by
      have hwindow := hs.session.window
      rw [hd, hnil] at hwindow
      cases hwindow
    have hcount : quota limit ≤ s.session.returned.flatten.length + s.gathered.pending.length := by
      rw [length_pending_gathered]
      omega
    obtain ⟨hripe, hended⟩ := ht.ripe_poll hs (Batches.gather_deadline hd hp) hdue hcount
    exact ⟨hripe, fun hle => hended (Nat.le_trans hdue hle)⟩

theorem Ripe.step (hs : s.Sound before live window) (ht : s.Tells style limit) {due : Nat} (h : s.Ripe limit due)
    (act : Act) : (s.step act).Ripe limit due := by
  rcases h with he | ⟨d, hd, hdue, hq⟩
  · rw [step_of_ended he]
    exact .inl he
  · cases he : s.printer.ended with
    | true =>
      rw [step_of_ended he]
      exact .inl he
    | false =>
      cases act with
      | publish e =>
        simp only [step_publish he, Session.step, hs.opened]
        exact .inr ⟨d, hd, hdue, hq⟩
      | advance ms =>
        rw [step_advance he]
        exact .inr ⟨d, hd, hdue, hq⟩
      | poll => exact (Ripe.poll hs ht (.inr ⟨d, hd, hdue, hq⟩)).1
      | interrupt => exact .inl (by simp [step_interrupt he, Printer.interrupt])

theorem Ripe.run (hs : s.Sound before live window) (ht : s.Tells style limit) {due : Nat} (h : s.Ripe limit due)
    (acts : List Act) : (run acts s).Ripe limit due := by
  induction acts generalizing s with
  | nil => exact h
  | cons act rest ih => exact ih (hs.step act) (ht.step hs act) (h.step hs ht act)

/-- The clock goes on until the command ends. -/
theorem now_run (acts : List Act) (s : Viewing) :
    (run acts s).printer.ended = true ∨ (run acts s).session.now = s.session.now + (acts.map Act.elapsed).sum := by
  induction acts generalizing s with
  | nil => exact .inr rfl
  | cons act rest ih =>
    cases he : s.printer.ended with
    | true => exact .inl (by rw [run_of_ended he]; exact he)
    | false =>
      refine (ih (s.step act)).imp_right fun hnow => ?_
      have hact : (s.step act).session.now = s.session.now + act.elapsed := by
        cases act with
        | publish e =>
          simp only [step_publish he, Session.step]
          split <;> rfl
        | advance ms => rw [step_advance he]; rfl
        | poll => rw [step_poll he]; rfl
        | interrupt => rw [step_interrupt he]; rfl
      show (run rest (s.step act)).session.now = _
      rw [hnow, hact, List.map_cons, List.sum_cons, Nat.add_assoc]

/-! ## what the feed delivers -/

theorem handed_step (s : Viewing) (act : Act) : s.session.handed <+: (s.step act).session.handed := by
  cases he : s.printer.ended with
  | true => exact ⟨[], by rw [step_of_ended he, List.append_nil]⟩
  | false =>
    cases act with
    | publish e =>
      simp only [step_publish he, Session.step]
      split <;> exact List.prefix_rfl
    | advance ms => simp [step_advance he, Session.step, Session.setClock]
    | poll => simp [step_poll he, Session.step, Session.after]
    | interrupt => simp [step_interrupt he]

theorem handed_run (acts : List Act) (s : Viewing) : s.session.handed <+: (run acts s).session.handed := by
  induction acts generalizing s with
  | nil => exact List.prefix_rfl
  | cons act rest ih => exact (handed_step s act).trans (ih (s.step act))

/-- What is delivered is what the reader is handed first, whatever comes after the next poll. -/
theorem delivered_run (h : s.printer.ended = false) (acts : List Act) :
    s.delivered <+: (run (.poll :: acts) s).session.handed := by
  have hpoll : (s.step .poll).session.handed = s.delivered := by
    rw [step_poll h]
    rfl
  rw [← hpoll]
  exact handed_run acts (s.step .poll)

theorem whole_run {first : List Event} (hs : s.Sound before live window) (hw : s.session.Whole first)
    {acts : List Act} (hk : ∀ done, done <+: acts → (run done s).session.KeepsUp live) :
    (run acts s).session.Whole first := by
  induction acts generalizing s with
  | nil => exact hw
  | cons act rest ih =>
    have hact := hk [act] ⟨rest, rfl⟩
    have hstep : (s.step act).session.Whole first := by
      have hact : (s.step act).session.KeepsUp live := hact
      rcases session_step s act with hsame | ⟨a, ha⟩
      · rwa [hsame]
      · rw [ha] at hact ⊢
        exact hw.step hs.session hact
    refine ih (hs.step act) hstep fun done hd => ?_
    exact hk (act :: done) (List.cons_prefix_cons.2 ⟨rfl, hd⟩)

theorem interrupted_run {acts : List Act} (h : Act.interrupt ∉ acts) (s : Viewing) :
    (run acts s).interrupted = s.interrupted := by
  induction acts generalizing s with
  | nil => rfl
  | cons act rest ih =>
    have hact : (s.step act).interrupted = s.interrupted := by
      cases he : s.printer.ended with
      | true => rw [step_of_ended he]
      | false =>
        cases act with
        | publish e => rw [step_publish he]
        | advance ms => rw [step_advance he]
        | poll => rw [step_poll he]
        | interrupt => exact absurd List.mem_cons_self h
    rw [← hact]
    exact ih (fun hm => h (List.mem_cons_of_mem _ hm)) (s.step act)

/-! ## the result -/

/-- Lists that begin another one both agree as far as both go. -/
theorem take_agrees {α : Type} {a b l : List α} (ha : a <+: l) (hb : b <+: l) {n : Nat} (hna : n ≤ a.length)
    (hnb : n ≤ b.length) : a.take n = b.take n := by
  obtain ⟨_, rfl⟩ := ha
  obtain ⟨_, h⟩ := hb
  have htake := congrArg (List.take n) h
  rw [List.take_append_of_le_length hnb, List.take_append_of_le_length hna] at htake
  exact htake.symm

/-- What the batches hold is what the reader was handed first. -/
theorem Sound.returned_first (h : s.Sound before live window) :
    s.session.returned.flatten <+: s.session.handed := ⟨_, h.session.lossless⟩

/-- Once there is enough for the quota, a poll, a window's time and another poll end the command at the quota. -/
theorem Tells.prints_quota (hs : s.Sound before live window) (h : s.Tells style limit)
    (hi : s.interrupted = false) (hq : quota limit ≤ s.delivered.length) {more : List Act}
    (hmore : Act.interrupt ∉ more) (htime : window ≤ (more.map Act.elapsed).sum) :
    let t := Viewing.run (.poll :: more ++ [.poll]) s
    t.printer.ended = true ∧ t.printer.lines = (s.delivered.take (quota limit)).map (Report.event style) := by
  intro t
  have ht : t = (Viewing.run more (s.step .poll)).step .poll := run_append (.poll :: more) [.poll] s
  have hsound := (hs.step .poll).run more
  have htells := (h.step hs .poll).run (hs.step .poll) more
  have hripe := (h.ripens hs hq).run (hs.step .poll) (h.step hs .poll) more
  have hended : t.printer.ended = true := by
    rw [ht]
    rcases now_run more (s.step .poll) with he | hnow
    · rw [step_of_ended he]
      exact he
    · refine (hripe.poll hsound htells).2 ?_
      have hsame : (s.step .poll).session.now = s.session.now := by
        cases he : s.printer.ended with
        | true => rw [step_of_ended he]
        | false => rw [step_poll he]; rfl
      rw [hnow, hsame]
      omega
  have htrun : t.Tells style limit := h.run hs _
  have hts : t.Sound before live window := hs.run _
  have hti : t.interrupted = false := by
    have hno : Act.interrupt ∉ .poll :: more ++ [.poll] := by simpa using hmore
    exact (interrupted_run hno s).trans hi
  have hreturned : quota limit ≤ t.session.returned.flatten.length := by
    have := htrun.ended.1 hended
    rwa [hti, or_iff_right Bool.false_ne_true] at this
  refine ⟨hended, ?_⟩
  rw [htrun.lines]
  congr 1
  cases he : s.printer.ended with
  | true =>
    have hsame : t = s := run_of_ended he _
    rw [hsame] at hreturned hts ⊢
    exact take_agrees (hts.returned_first.trans (List.prefix_append _ _)) List.prefix_rfl hreturned hq
  | false => exact take_agrees hts.returned_first (delivered_run he _) hreturned hq

/-- **The command prints as many events as its limit says, and one if its limit is 0**, for every window, history,
ring and style and whatever happens in whatever order. What it has printed are the first events that it was
handed, in their order and one line each, never more than the quota; unless somebody ends it, it ends with the
quota and not before. When the feed has delivered that many, then one poll, a window's time and another poll
later the command has printed the first of them, so many, and has ended without failure, whatever else was
published and however often it was polled in between; and nothing changes after that. If the reader is never
behind by more than a ring, what is delivered is the feed itself: what the history held when the command came,
and all that was published since. -/
theorem prints_up_to_quota (window history live limit : Nat) (before : List Event) (style : Report.Style)
    (acts : List Act) :
    let start := start window history live before style (some limit)
    let s := run acts start
    let feed := before.drop (before.length - min history before.length) ++ s.session.published
    s.printer.lines = (s.session.handed.take s.printer.seen).map (Report.event style) ∧
      s.printer.seen ≤ max limit 1 ∧
      (s.interrupted = false → (s.printer.ended = true ↔ s.printer.seen = max limit 1)) ∧
      (s.interrupted = false → max limit 1 ≤ s.delivered.length → ∀ more, Act.interrupt ∉ more →
        window ≤ (more.map Act.elapsed).sum →
        let t := run (.poll :: more ++ [.poll]) s
        t.printer.lines = (s.delivered.take (max limit 1)).map (Report.event style) ∧
          t.printer.outcome = { stdout := joinLines t.printer.lines, ending := .finished } ∧
          ∀ later, run later t = t) ∧
      ((∀ done, done <+: acts → (run done start).session.KeepsUp live) → s.delivered = feed) := by
  intro start s feed
  have hstart := Sound.start window history live before style (some limit)
  have hs : s.Sound before live window := hstart.run acts
  have ht : s.Tells style limit := (Tells.start window history live before style limit).run hstart acts
  refine ⟨?_, ht.seen_le, ht.ended_iff, fun hi hq more hmore htime => ?_, fun hk => ?_⟩
  · have hle : s.printer.seen ≤ s.session.returned.flatten.length := by
      rw [ht.seen]
      exact Nat.min_le_right _ _
    have htake : s.session.handed.take s.printer.seen = s.session.returned.flatten.take s.printer.seen :=
      (take_agrees hs.returned_first List.prefix_rfl hle
        (Nat.le_trans hle hs.returned_first.length_le)).symm
    rw [ht.lines, htake, ht.seen, ← List.take_take, List.take_length]
  · obtain ⟨hended, hlines⟩ := ht.prints_quota hs hi hq hmore htime
    exact ⟨hlines, by rw [Printer.outcome, if_pos hended], run_of_ended hended⟩
  · exact whole_run hstart (Session.Whole.start window history live before) hk

/-- A limit of 0 is looked at after the first event was printed. -/
theorem limit_zero_prints_one :
    let e : Event := ⟨"a", 0, "direct", 1, 0, .connected⟩
    let s := run [.poll, .publish e, .poll, .advance 100, .poll] (start 100 100 1024 [] ⟨.text, false⟩ (some 0))
    s.interrupted = false ∧ s.printer.ended = true ∧
      s.printer.lines = ["00:00:00  OK    a  via direct  1ms"] := by decide

end Viewing

end CommandLine

end ProxyKeeper

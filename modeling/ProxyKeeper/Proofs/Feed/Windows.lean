/-
When batches come.

A wait with nothing more to come first takes all that is there, and then it ends with the window or is given up
(`Batches.lapse`). The end of the window does not depend on the wait, so that a wait in two parts is one wait
(`lapse_add`).

For whole runs a log tells when the source handed out each item and when each batch was returned (`Session.journal`).
What ties the windows to it is that the open one ends so long after the first item that came since the last return
(`Dated`). Every step of a call keeps that, and so does all that happens between calls.
-/
import Mathlib.Data.List.Induction
import ProxyKeeper.Proofs.Feed.Batches
import ProxyKeeper.Proofs.Lists

namespace ProxyKeeper.Feed

variable {α : Type}

/-! ## a wait with nothing more to come -/

namespace Batches

variable {now : Nat} {c : Replay α} {b : Batches α}

/-- How a wait ends once all that is there was taken: with the window if that ends within the limit, be it before the
wait began. -/
def lapse (now limit : Nat) (b : Batches α) : Batches α × Delivery (List α) × Nat :=
  match b.deadline with
  | some d => if d ≤ now + limit then (b.flush.1, b.flush.2, max now d) else (b, .pending, now + limit)
  | none => (b, .pending, now + limit)

theorem lapse_of_none (hd : b.deadline = none) (now limit : Nat) :
    b.lapse now limit = (b, .pending, now + limit) := by
  simp only [lapse, hd]

theorem lapse_of_le {d limit : Nat} (hd : b.deadline = some d) (h : d ≤ now + limit) :
    b.lapse now limit = (b.flush.1, b.flush.2, max now d) := by
  simp only [lapse, hd, if_pos h]

theorem lapse_of_lt {d limit : Nat} (hd : b.deadline = some d) (h : now + limit < d) :
    b.lapse now limit = (b, .pending, now + limit) := by
  simp only [lapse, hd, if_neg (Nat.not_le.2 h)]

theorem poll_of_over {d : Nat} (hc : c.isClosed = false) (hd : (b.gather now c).deadline = some d) (h : d ≤ now) :
    b.poll now c = (b.gather now c).flush := by
  rw [poll_eq, answer, hc, hd]
  simp [h]

theorem poll_of_running (hc : c.isClosed = false) (h : ∀ d, (b.gather now c).deadline = some d → now < d) :
    b.poll now c = (b.gather now c, .pending) := by
  rw [poll_eq, answer, hc]
  cases hd : (b.gather now c).deadline with
  | none => simp
  | some d =>
    have hlt := h d hd
    simp [hlt]

/-- A wait is what lapses after all that is there was taken. -/
theorem wait_of_open (hc : c.isClosed = false) (ha : (b.gather now c).source.available c = []) (limit : Nat) :
    b.wait now limit c = (b.gather now c).lapse now limit := by
  cases hd : (b.gather now c).deadline with
  | none =>
    have hpoll : b.poll now c = (b.gather now c, .pending) := poll_of_running hc fun d h => by
      rw [hd] at h
      cases h
    simp only [wait, hpoll, lapse_of_none hd, hd]
  | some d =>
    by_cases hover : d ≤ now
    · have hmax : max now d = now := by omega
      simp only [wait, poll_of_over hc hd hover, lapse_of_le hd (show d ≤ now + limit by omega), flush, hmax]
    · have hpoll : b.poll now c = (b.gather now c, .pending) := poll_of_running hc fun e he => by
        rw [hd] at he
        cases he
        omega
      by_cases hlimit : d ≤ now + limit
      · -- nothing has come in the meantime, so the second poll finds the window over and takes nothing
        have hnone : (b.gather now c).gather d c = b.gather now c := gather_of_nil ha
        have hsecond : (b.gather now c).poll d c = (b.gather now c).flush := by
          rw [poll_of_over hc (by rw [hnone, hd]) (Nat.le_refl d), hnone]
        have hmax : max now d = d := by omega
        simp only [wait, hpoll, hd, if_pos hlimit, hsecond, lapse_of_le hd hlimit, hmax]
      · simp only [wait, hpoll, hd, if_neg hlimit, lapse_of_lt hd (Nat.not_le.1 hlimit)]

end Batches

namespace Session

/-! ## logs -/

/-- What happens to a reader, with its time: its source hands out an item, or it returns a batch. -/
inductive Entry (α : Type) where
  | pulled (time : Nat) (x : α)
  /-- `isOpen` tells whether there was still a publisher. -/
  | returned (time : Nat) (batch : List α) (isOpen : Bool)

namespace Entry

def time : Entry α → Nat
  | .pulled t _ => t
  | .returned t _ _ => t

def item? : Entry α → Option α
  | .pulled _ x => some x
  | .returned _ _ _ => none

def batch? : Entry α → Option (List α)
  | .pulled _ _ => none
  | .returned _ batch _ => some batch

/-- The items since the last return, after one more entry. -/
def since (items : List (Nat × α)) : Entry α → List (Nat × α)
  | .pulled t x => items ++ [(t, x)]
  | .returned _ _ _ => []

end Entry

/-- The items that were pulled since the last return, each with its time. -/
def since (log : List (Entry α)) : List (Nat × α) := log.foldl Entry.since []

/-- The entry for an answer of a call. -/
def answers (s : Session α) (t : Nat) (answer : Delivery (List α)) : List (Entry α) :=
  answer.item?.toList.map (.returned t · (!s.channel.isClosed))

/-- The entries for what a session does. A call takes all that is there when it begins; a wait answers when it
ends. -/
def entries (s : Session α) : Act α → List (Entry α)
  | .publish _ | .advance _ | .close => []
  | .turn =>
    match s.batches.turn s.now s.channel with
    | .took x _ => [.pulled s.now x]
    | .answered r => s.answers s.now r.2
  | .poll =>
    (s.batches.source.available s.channel).map (.pulled s.now)
      ++ s.answers s.now (s.batches.poll s.now s.channel).2
  | .next limit =>
    let (_, answer, till) := s.batches.wait s.now limit s.channel
    (s.batches.source.available s.channel).map (.pulled s.now) ++ s.answers till answer

/-- The log of a run. -/
def journal : List (Act α) → Session α → List (Entry α)
  | [], _ => []
  | act :: rest, s => s.entries act ++ journal rest (s.step act)

/-! ## what came since the last return -/

theorem since_concat (log : List (Entry α)) (e : Entry α) : since (log ++ [e]) = e.since (since log) := by
  rw [since, List.foldl_append]
  rfl

/-- A return leaves nothing of what was before it. -/
theorem since_append_returned (front : List (Entry α)) (t : Nat) (batch : List α) (isOpen : Bool)
    (between : List (Entry α)) : since (front ++ .returned t batch isOpen :: between) = since between := by
  rw [since, List.foldl_append, List.foldl_cons]
  rfl

/-- What came since the last return stands in the log. -/
theorem mem_of_mem_since {log : List (Entry α)} {p : Nat × α} (h : p ∈ since log) : .pulled p.1 p.2 ∈ log := by
  induction log using List.reverseRecOn with
  | nil => cases h
  | append_singleton log e ih =>
    rw [since_concat] at h
    cases e with
    | pulled t x =>
      rcases List.mem_append.1 h with h | h
      · exact List.mem_append_left _ (ih h)
      · rw [List.mem_singleton.1 h]
        exact List.mem_append_right _ List.mem_cons_self
    | returned t batch isOpen => cases h

/-! ## the invariant -/

/-- How a return stands to what was before it: the batch is what came since the return before, and if there was still a
publisher, then its first item came a window ago. -/
structure Honours (window : Nat) (before : List (Entry α)) (time : Nat) (batch : List α) (isOpen : Bool) : Prop where
  items : (since before).map (·.2) = batch
  nonempty : batch ≠ []
  window : isOpen = true → ∀ first ∈ (since before).head?, first.1 + window ≤ time

/-- What holds of a session and its log. -/
structure Dated (window : Nat) (log : List (Entry α)) (s : Session α) : Prop where
  length : s.batches.window = window
  pending : (since log).map (·.2) = s.batches.pending
  deadline : s.batches.deadline = (since log).head?.map (·.1 + window)
  handed : log.filterMap Entry.item? = s.handed
  returned : log.filterMap Entry.batch? = s.returned
  past : ∀ e ∈ log, e.time ≤ s.now
  inOrder : log.Pairwise (·.time ≤ ·.time)
  honoured : ∀ front time batch isOpen back, log = front ++ .returned time batch isOpen :: back →
    Honours window front time batch isOpen

variable {before : List α} {live window : Nat} {s : Session α} {log : List (Entry α)}

theorem Dated.start (window history live : Nat) (before : List α) :
    Dated window [] (start window history live before) where
  length := rfl
  pending := rfl
  deadline := rfl
  handed := rfl
  returned := rfl
  past e he := by cases he
  inOrder := .nil
  honoured front time batch isOpen back h := by simp at h

theorem Dated.setClock (h : s.Dated window log) {t : Nat} (ht : s.now ≤ t) : (s.setClock t).Dated window log :=
  { h with past := fun e he => Nat.le_trans (h.past e he) ht }

/-- What happens now comes last. -/
theorem Dated.times_concat (h : s.Dated window log) {e : Entry α} (he : e.time = s.now) :
    (∀ e' ∈ log ++ [e], e'.time ≤ s.now) ∧ (log ++ [e]).Pairwise (·.time ≤ ·.time) := by
  refine ⟨fun e' he' => ?_, List.pairwise_append.2 ⟨h.inOrder, List.pairwise_singleton _ _, fun e₁ h₁ e₂ h₂ => ?_⟩⟩
  · rcases List.mem_append.1 he' with he' | he'
    · exact h.past e' he'
    · rw [List.mem_singleton.1 he', he]
  · rw [List.mem_singleton.1 h₂, he]
    exact h.past e₁ h₁

theorem Dated.pulled (h : s.Dated window log) (x : α) (source : Receiver α) :
    (s.after [x] (s.batches.push s.now x source, .pending)).Dated window (log ++ [.pulled s.now x]) where
  length := h.length
  pending := by
    rw [since_concat, Entry.since, List.map_append, h.pending]
    rfl
  deadline := by
    rw [since_concat, Entry.since]
    cases hsince : since log with
    | nil =>
      have hpending : s.batches.pending = [] := by rw [← h.pending, hsince]; rfl
      simp [after, Batches.push, hpending, h.length]
    | cons first rest =>
      have hpending : s.batches.pending ≠ [] := by rw [← h.pending, hsince]; simp
      have hdeadline := h.deadline
      rw [hsince] at hdeadline
      simp [after, Batches.push, hpending, hdeadline]
  handed := by
    rw [List.filterMap_append, h.handed]
    rfl
  returned := by
    rw [List.filterMap_append, h.returned]
    rfl
  past := (h.times_concat rfl).1
  inOrder := (h.times_concat rfl).2
  honoured front time batch isOpen back hcut := by
    rcases eq_or_of_append_singleton hcut with ⟨-, he⟩ | ⟨rest, hlog⟩
    · cases he
    · exact h.honoured front time batch isOpen rest hlog

/-- What is pending may be returned once its window is over, or at the end. -/
theorem Dated.flushed (h : s.Dated window log) (hpending : s.batches.pending ≠ [])
    (hover : s.channel.isClosed = false → ∀ d, s.batches.deadline = some d → d ≤ s.now) :
    (s.after [] s.batches.flush).Dated window
      (log ++ [.returned s.now s.batches.pending (!s.channel.isClosed)]) where
  length := h.length
  pending := by
    rw [since_concat]
    rfl
  deadline := by
    rw [since_concat]
    rfl
  handed := by
    rw [List.filterMap_append, h.handed]
    rfl
  returned := by
    rw [List.filterMap_append, h.returned]
    rfl
  past := (h.times_concat rfl).1
  inOrder := (h.times_concat rfl).2
  honoured front time batch isOpen back hcut := by
    rcases eq_or_of_append_singleton hcut with ⟨hlog, he⟩ | ⟨rest, hlog⟩
    · cases he
      subst hlog
      refine ⟨h.pending, hpending, fun hopen first hfirst => ?_⟩
      have hdeadline := h.deadline
      rw [hfirst] at hdeadline
      exact hover (by simpa using hopen) _ hdeadline
    · exact h.honoured front time batch isOpen rest hlog

/-- While there is a publisher, a call gives away what is pending when its window is over. -/
theorem over_of_answer (h : s.batches.answer s.now s.channel = s.batches.flush) (hc : s.channel.isClosed = false)
    {d : Nat} (hd : s.batches.deadline = some d) : d ≤ s.now := by
  rw [Batches.answer, hc, hd] at h
  by_cases hle : d ≤ s.now
  · exact hle
  · simp [hle, Batches.flush] at h

theorem Dated.answered (h : s.Dated window log) (hs : s.Sound before live) :
    (s.after [] (s.batches.answer s.now s.channel)).Dated window
      (log ++ s.answers s.now (s.batches.answer s.now s.channel).2) := by
  rcases s.batches.answer_cases s.now s.channel with ⟨hr, hp⟩ | hr | ⟨hr, hp⟩
  · have hpending : s.batches.pending ≠ [] := fun hnil => by
      have hw := hs.window
      rw [hnil] at hw hp
      simp_all
    rw [hr]
    exact h.flushed hpending fun hc d hd => over_of_answer hr hc hd
  · rw [hr]
    simpa [after, answers, Delivery.item?] using h
  · have hnone : s.batches.deadline = none := by simpa [hp] using hs.window
    have hsame : ({ s.batches with deadline := none } : Batches α) = s.batches := by rw [← hnone]
    rw [hr, hsame]
    simpa [after, answers, Delivery.item?] using h

/-! ## calls -/

/-- A session that has taken all that is there. -/
def taking (s : Session α) : Session α :=
  s.after (s.batches.source.available s.channel) (s.batches.gather s.now s.channel, .pending)

theorem taking_of_nil (h : s.batches.source.available s.channel = []) : s.taking = s := by
  rw [taking, h, Batches.gather_of_nil h]
  simp [after, Delivery.item?]

theorem Sound.taking (h : s.Sound before live) : s.taking.Sound before live where
  holds := h.holds
  ringCapacity := h.ringCapacity
  handles := h.handles
  stands := by
    obtain ⟨cursor, hstands⟩ := h.poll.stands
    have hsource : (s.step .poll).batches.source = s.taking.batches.source := Batches.answer_source _ _ _
    rw [hsource] at hstands
    exact ⟨cursor, hstands⟩
  window := by
    have hw := h.window
    cases hp : s.batches.pending <;> cases ha : s.batches.source.available s.channel <;>
      simp_all [Session.taking, after, Batches.gather]
  nonempty := by simpa [Session.taking, after, Delivery.item?] using h.nonempty
  lossless := by
    simp only [Session.taking, after, Batches.gather, Delivery.item?, Option.toList_none, List.append_nil]
    rw [← List.append_assoc, h.lossless]

/-- What one item keeps, all that is there keep. -/
theorem Dated.taking (h : s.Dated window log) (hs : s.Sound before live) :
    s.taking.Dated window (log ++ (s.batches.source.available s.channel).map (.pulled s.now)) := by
  induction ha : s.batches.source.available s.channel generalizing s log with
  | nil =>
    rw [taking_of_nil ha]
    simpa using h
  | cons x xs ih =>
    obtain ⟨cursor, hstands⟩ := hs.stands
    rcases hstands.take?_cases hs.holds with ⟨y, source, -, ht, hsource⟩ | ⟨-, ht⟩
    · have hcons := Receiver.available_of_take? hs.holds ht
      rw [ha] at hcons
      obtain ⟨rfl, hxs⟩ := List.cons.inj hcons
      have hsame : (s.after [x] (s.batches.push s.now x source, .pending)).taking = s.taking := by
        rw [Session.taking, Session.taking, after_after, ha, hxs]
        exact congrArg (fun b => s.after _ (b, .pending)) (Batches.gather_push hs.holds hs.roomy hsource ht)
      have hnext := ih (h.pulled x source) (hs.push ht) hxs.symm
      rw [hsame, List.append_assoc] at hnext
      exact hnext
    · have hnil := Receiver.take?_eq_none_iff.1 ht
      rw [ha] at hnil
      cases hnil

theorem step_poll (s : Session α) :
    s.step .poll = s.taking.after [] (s.taking.batches.answer s.now s.channel) := by
  rw [Session.taking, after_after, List.append_nil]
  rfl

theorem Dated.poll (h : s.Dated window log) (hs : s.Sound before live) :
    (s.step .poll).Dated window (log ++ s.entries .poll) := by
  have hanswered := (h.taking hs).answered hs.taking
  rw [List.append_assoc] at hanswered
  rw [step_poll]
  exact hanswered

theorem Sound.taking_available (h : s.Sound before live) :
    s.taking.batches.source.available s.taking.channel = [] := by
  have ha := h.poll_available
  rwa [Batches.poll_eq, Batches.answer_source] at ha

/-- While there is a publisher, a wait is what lapses after all that is there was taken. -/
theorem Sound.wait_eq (h : s.Sound before live) (hc : s.channel.isClosed = false) (limit : Nat) :
    s.batches.wait s.now limit s.channel = s.taking.batches.lapse s.now limit :=
  Batches.wait_of_open hc h.taking_available limit

theorem Sound.step_next (h : s.Sound before live) (hc : s.channel.isClosed = false) (limit : Nat) :
    let r := s.taking.batches.lapse s.now limit
    s.step (.next limit) = (s.taking.after [] (r.1, r.2.1)).setClock r.2.2 ∧
      s.entries (.next limit) =
        (s.batches.source.available s.channel).map (.pulled s.now) ++ s.answers r.2.2 r.2.1 := by
  intro r
  constructor
  · rw [Session.taking, after_after, List.append_nil, Session.step, h.wait_eq hc]
  · rw [entries, h.wait_eq hc]

theorem after_pending (s : Session α) : s.after [] (s.batches, .pending) = s := by
  simp [after, Delivery.item?]

theorem Sound.next_of_closed (h : s.channel.isClosed = true) (limit : Nat) :
    s.step (.next limit) = s.step .poll ∧ s.entries (.next limit) = s.entries .poll := by
  constructor
  · simp only [Session.step, Batches.wait_of_closed h]
    rfl
  · simp only [entries, Batches.wait_of_closed h]

theorem Dated.next (h : s.Dated window log) (hs : s.Sound before live) (limit : Nat) :
    (s.step (.next limit)).Dated window (log ++ s.entries (.next limit)) := by
  cases hc : s.channel.isClosed with
  | true =>
    obtain ⟨hstep, hentries⟩ := Sound.next_of_closed hc limit
    rw [hstep, hentries]
    exact h.poll hs
  | false =>
    have hdated := h.taking hs
    obtain ⟨hstep, hentries⟩ := hs.step_next hc limit
    rw [hstep, hentries, ← List.append_assoc]
    have hgivenUp : ((s.taking.after [] (s.taking.batches, .pending)).setClock (s.now + limit)).Dated window
        (log ++ (s.batches.source.available s.channel).map (.pulled s.now) ++
          s.answers (s.now + limit) .pending) := by
      rw [after_pending, answers, Delivery.item?, Option.toList_none, List.map_nil, List.append_nil]
      exact hdated.setClock (Nat.le_add_right _ _)
    cases hd : s.taking.batches.deadline with
    | none =>
      rw [Batches.lapse_of_none hd]
      exact hgivenUp
    | some d =>
      by_cases hlimit : d ≤ s.now + limit
      · rw [Batches.lapse_of_le hd hlimit]
        have hpending : s.taking.batches.pending ≠ [] := fun hnil => by
          have hw := hs.taking.window
          rw [hnil, hd] at hw
          cases hw
        have hlater := hdated.setClock (t := max s.now d) (Nat.le_max_left _ _)
        refine hlater.flushed hpending fun _ e he => ?_
        have he : s.taking.batches.deadline = some e := he
        rw [hd] at he
        cases he
        exact Nat.le_max_right _ _
      · rw [Batches.lapse_of_lt hd (Nat.not_le.1 hlimit)]
        exact hgivenUp

/-! ## runs -/

theorem Dated.step (h : s.Dated window log) (hs : s.Sound before live) (act : Act α) :
    (s.step act).Dated window (log ++ s.entries act) := by
  cases act with
  | publish x =>
    rw [entries, List.append_nil, Session.step]
    split
    · exact h
    · exact { h with }
  | advance ms =>
    rw [entries, List.append_nil]
    exact h.setClock (Nat.le_add_right _ _)
  | turn =>
    rw [entries, Session.step]
    cases ht : s.batches.turn s.now s.channel with
    | took x b =>
      obtain ⟨source, -, rfl⟩ := Batches.turn_took ht
      exact h.pulled x source
    | answered r =>
      rw [Batches.turn_answered ht]
      exact h.answered hs
  | poll => exact h.poll hs
  | next limit => exact h.next hs limit
  | close =>
    rw [entries, List.append_nil]
    exact { h with }

theorem Dated.run (h : s.Dated window log) (hs : s.Sound before live) (acts : List (Act α)) :
    (run acts s).Dated window (log ++ journal acts s) := by
  induction acts generalizing s log with
  | nil =>
    rw [journal, List.append_nil]
    exact h
  | cons act rest ih =>
    have hrest := ih (h.step hs act) (hs.step act)
    rwa [List.append_assoc] at hrest

/-- A return that keeps to its window comes a window after the return before it. -/
theorem Dated.apart (h : s.Dated window log) {front between back : List (Entry α)} {t t' : Nat}
    {batch batch' : List α} {isOpen : Bool}
    (hlog : log = front ++ .returned t batch isOpen :: (between ++ .returned t' batch' true :: back)) :
    t + window ≤ t' := by
  have hcut : log = (front ++ .returned t batch isOpen :: between) ++ .returned t' batch' true :: back := by
    rw [hlog, List.append_assoc, List.cons_append]
  obtain ⟨hitems, hnonempty, hwindow⟩ := h.honoured _ _ _ _ _ hcut
  rw [since_append_returned] at hitems hwindow
  cases hsince : since between with
  | nil =>
    rw [hsince] at hitems
    exact absurd hitems.symm hnonempty
  | cons first rest =>
    have hover : first.1 + window ≤ t' := hwindow rfl first (by rw [hsince]; rfl)
    have hfirst : .pulled first.1 first.2 ∈ between := mem_of_mem_since (by rw [hsince]; exact List.mem_cons_self)
    have hafter : t ≤ first.1 := by
      have hsorted := h.inOrder
      rw [hlog, List.pairwise_append] at hsorted
      have hcons := (List.pairwise_cons.1 hsorted.2.1).1
      exact hcons _ (List.mem_append_left _ hfirst)
    omega

/-! ## waits given up -/

/-- A call that is given up at the end of its window, one that is given up within it, and the end of the source. -/
example :
    let acts : List (Act Nat) :=
      [.publish 1, .poll, .advance 100, .next 5, .publish 2, .next 40, .publish 3, .next 70, .publish 4, .close, .poll]
    (journal acts (start 100 0 16 [])).map (fun e => (e.time, e.batch?)) =
      [(0, none), (100, some [1]), (100, none), (140, none), (200, some [2, 3]), (200, none), (200, some [4])] := by
  decide

end Session

end ProxyKeeper.Feed

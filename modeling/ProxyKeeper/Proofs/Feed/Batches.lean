/-
Batches, over whole runs: items are published, time passes, calls for a batch
are awaited, polled or given up wherever they wait, and in the end the channel
goes.

The unit is one turn of a call's loop (`Batches.turn`): it receives one item or
gives the answer. A poll is as many turns as there are items (`poll_turns`) and
a wait is one poll or two (`Session.next_cases`), so what a turn preserves is
preserved by all (`Sound.step`). The invariant is that a window is open exactly
while items are pending: it is why no batch is empty and no item is forgotten.
-/
import ProxyKeeper.Feed.Batches
import ProxyKeeper.Proofs.Feed.Channel

namespace ProxyKeeper.Feed

variable {α : Type}

/-! ## one turn of a call -/

namespace Batches

/-- What a turn comes to: an item was taken and the call goes on, or the call answers. -/
inductive Turn (α : Type) where
  | took (x : α) (b : Batches α)
  | answered (r : Batches α × Delivery (List α))

/-- Takes one item in; the first one opens a window. -/
def push (now : Nat) (x : α) (source : Receiver α) (b : Batches α) : Batches α :=
  { b with
    source
    pending := b.pending ++ [x]
    deadline := if b.pending.isEmpty then some (now + b.window) else b.deadline }

/-- One turn of a call's loop. It asks the source before it looks at the clock. -/
def turn (now : Nat) (c : Replay α) (b : Batches α) : Turn α :=
  match b.source.receive c with
  | (source, .item x) => .took x (b.push now x source)
  | (_, .closed) =>
    .answered (if b.pending.isEmpty then ({ b with deadline := none }, .closed) else b.flush)
  | (_, .pending) => .answered (if b.deadline.any (· ≤ now) then b.flush else (b, .pending))

/-- A call that takes these items, turn after turn, and then gives this answer. -/
inductive Turns (now : Nat) (c : Replay α) : Batches α → List α → Batches α × Delivery (List α) → Prop
  | answered {b r} : b.turn now c = .answered r → Turns now c b [] r
  | took {b b' x xs r} : b.turn now c = .took x b' → Turns now c b' xs r → Turns now c b (x :: xs) r

/-- The answer of a call that has taken all that is there. -/
def answer (now : Nat) (c : Replay α) (b : Batches α) : Batches α × Delivery (List α) :=
  if c.isClosed then
    if b.pending.isEmpty then ({ b with deadline := none }, .closed) else b.flush
  else if b.deadline.any (· ≤ now) then b.flush
  else (b, .pending)

variable {now : Nat} {c : Replay α} {b : Batches α}

theorem turn_of_some {x : α} {source : Receiver α}
    (h : b.source.take? c = some (x, source)) : b.turn now c = .took x (b.push now x source) := by
  rw [turn, Receiver.receive, h]

theorem turn_of_none (h : b.source.take? c = none) :
    b.turn now c = .answered (b.answer now c) := by
  rw [turn, Receiver.receive, h, answer]
  cases hc : c.isClosed <;> simp

theorem turn_took {b' : Batches α} {x : α} (h : b.turn now c = .took x b') :
    ∃ source, b.source.take? c = some (x, source) ∧ b' = b.push now x source := by
  cases ht : b.source.take? c with
  | none =>
    rw [turn_of_none ht] at h
    cases h
  | some p =>
    rw [turn_of_some ht] at h
    cases h
    exact ⟨_, rfl, rfl⟩

theorem turn_answered {r : Batches α × Delivery (List α)}
    (h : b.turn now c = .answered r) : r = b.answer now c := by
  cases ht : b.source.take? c with
  | none =>
    rw [turn_of_none ht] at h
    cases h
    rfl
  | some p =>
    rw [turn_of_some ht] at h
    cases h

/-- An answer gives away what is pending, or nothing. -/
theorem answer_cases (now : Nat) (c : Replay α) (b : Batches α) :
    (b.answer now c = b.flush ∧ (b.pending ≠ [] ∨ b.deadline.isSome)) ∨
      b.answer now c = (b, .pending) ∨
      b.answer now c = ({ b with deadline := none }, .closed) ∧ b.pending = [] := by
  rw [answer]
  cases hc : c.isClosed with
  | true =>
    cases hp : b.pending with
    | nil => exact .inr (.inr ⟨by simp, rfl⟩)
    | cons x xs => exact .inl ⟨by simp, .inl (by simp)⟩
  | false =>
    cases hd : b.deadline.any (· ≤ now) with
    | true =>
      refine .inl ⟨by simp, .inr ?_⟩
      cases hb : b.deadline with
      | none =>
        rw [hb] at hd
        cases hd
      | some d => rfl
    | false => exact .inr (.inl (by simp))

theorem answer_source (now : Nat) (c : Replay α) (b : Batches α) : (b.answer now c).1.source = b.source := by
  rcases answer_cases now c b with ⟨hr, -⟩ | hr | ⟨hr, -⟩
  · rw [hr]
    rfl
  · rw [hr]
  · rw [hr]

theorem poll_eq (now : Nat) (c : Replay α) (b : Batches α) : b.poll now c = (b.gather now c).answer now c := rfl

theorem gather_of_nil (h : b.source.available c = []) :
    b.gather now c = b := by
  simp [gather, h]

/-- Taking one item and then all that is left is taking all. -/
theorem gather_push {items : List α} (hc : c.Holds items) (hring : 0 < c.ringCapacity) {attached cursor : Nat}
    {x : α} {source : Receiver α}
    (h : source.Stands items attached cursor) (ht : b.source.take? c = some (x, source)) :
    (b.push now x source).gather now c = b.gather now c := by
  have ha := Receiver.available_of_take? hc ht
  have hs : source.available c = [] → source = .caughtUp c := h.caughtUp_of_available hc hring
  simpa [gather, push, ha] using hs

/-- A poll takes all that is there, turn after turn, and then answers. -/
theorem poll_turns {items : List α} (hc : c.Holds items) (hring : 0 < c.ringCapacity) {attached cursor : Nat}
    (h : b.source.Stands items attached cursor) :
    Turns now c b (b.source.available c) (b.poll now c) := by
  induction ha : b.source.available c generalizing b cursor with
  | nil =>
    rw [poll_eq, gather_of_nil ha]
    exact .answered (turn_of_none (Receiver.take?_eq_none_iff.2 ha))
  | cons x xs ih =>
    rcases h.take?_cases hc with ⟨y, source, -, ht, hs⟩ | ⟨-, ht⟩
    · have hcons := Receiver.available_of_take? hc ht
      rw [ha] at hcons
      obtain ⟨rfl, hxs⟩ := List.cons.inj hcons
      rw [poll_eq, ← gather_push hc hring hs ht, ← poll_eq]
      exact .took (turn_of_some ht) (ih hs hxs.symm)
    · have hnil := Receiver.take?_eq_none_iff.1 ht
      rw [ha] at hnil
      cases hnil

/-- What a call takes is gone from the source, and nothing else. -/
theorem Turns.available {items : List α} (hc : c.Holds items) {xs : List α} {r : Batches α × Delivery (List α)}
    (h : Turns now c b xs r) :
    b.source.available c = xs ++ r.1.source.available c := by
  induction h with
  | @answered b r ht =>
    rw [turn_answered ht, answer_source]
    rfl
  | took ht _ ih =>
    obtain ⟨source, hy, rfl⟩ := turn_took ht
    rw [Receiver.available_of_take? hc hy, List.cons_append, ← ih]
    rfl

/-- A poll leaves nothing behind. -/
theorem poll_available {items : List α} (hc : c.Holds items) (hring : 0 < c.ringCapacity) {attached cursor : Nat}
    (h : b.source.Stands items attached cursor) :
    (b.poll now c).1.source.available c = [] :=
  List.self_eq_append_right.1 ((poll_turns hc hring h).available hc)

/-! ## once the source has closed -/

/-- All that is left comes as one batch. -/
theorem poll_of_closed (hc : c.isClosed = true) (now : Nat) (b : Batches α) :
    (b.poll now c).2 =
      if (b.pending ++ b.source.available c).isEmpty then .closed else .item (b.pending ++ b.source.available c) := by
  rw [poll_eq, answer, if_pos hc]
  show (if (b.pending ++ b.source.available c).isEmpty then _ else _ : Batches α × Delivery (List α)).2 = _
  split <;> rfl

theorem wait_of_closed (hc : c.isClosed = true) (now limit : Nat) (b : Batches α) :
    b.wait now limit c = ((b.poll now c).1, (b.poll now c).2, now) := by
  have h := poll_of_closed hc now b
  cases hp : b.poll now c with
  | mk b' d =>
    cases d with
    | item batch => rw [wait, hp]
    | closed => rw [wait, hp]
    | pending =>
      rw [hp] at h
      split at h <;> cases h

end Batches

/-! ## sessions -/

/-- A channel and one reader of batches, with what became of the items: those published since the reader came,
those that its source has handed out, and the batches that it has returned. -/
structure Session (α : Type) where
  channel : Replay α
  batches : Batches α
  now : Nat := 0
  published : List α := []
  handed : List α := []
  returned : List (List α) := []

namespace Session

/-- What may happen. -/
inductive Act (α : Type) where
  | publish (x : α)
  | advance (ms : Nat)
  /-- A call for a batch takes one turn; whether it then goes on or is given up makes no difference. -/
  | turn
  /-- A call is polled until it answers or has to wait. -/
  | poll
  /-- A call is awaited while nothing is published, and given up after so long. -/
  | next (limit : Nat)
  /-- The last publisher lets go of the channel. -/
  | close

/-- A reader with a window comes to a channel on which some items were published before. -/
def start (window history live : Nat) (before : List α) : Session α :=
  let (channel, source) := ((Replay.create history live).publishAll before).subscribe
  { channel, batches := .create source window }

/-- What a call comes to that takes these items. -/
def after (taken : List α) (r : Batches α × Delivery (List α)) (s : Session α) : Session α :=
  { s with batches := r.1, handed := s.handed ++ taken, returned := s.returned ++ r.2.item?.toList }

def setClock (t : Nat) (s : Session α) : Session α := { s with now := t }

/-- Nobody publishes on a channel that has closed. -/
def step (s : Session α) : Act α → Session α
  | .publish x =>
    if s.channel.isClosed then s
    else { s with channel := s.channel.publish x, published := s.published ++ [x] }
  | .advance ms => s.setClock (s.now + ms)
  | .turn =>
    match s.batches.turn s.now s.channel with
    | .took x b => s.after [x] (b, .pending)
    | .answered r => s.after [] r
  | .poll => s.after (s.batches.source.available s.channel) (s.batches.poll s.now s.channel)
  | .next limit =>
    let (b, answer, till) := s.batches.wait s.now limit s.channel
    (s.after (s.batches.source.available s.channel) (b, answer)).setClock till
  | .close => { s with channel := s.channel.drop }

def run (acts : List (Act α)) (s : Session α) : Session α := acts.foldl step s

/-! ## the invariant -/

/-- What holds of a session at any time. -/
structure Sound (before : List α) (live : Nat) (s : Session α) : Prop where
  holds : s.channel.Holds (before ++ s.published)
  ringCapacity : s.channel.ringCapacity = 2 ^ Nat.clog 2 live
  handles : s.channel.handles ≤ 1
  stands : ∃ cursor, s.batches.source.Stands (before ++ s.published) before.length cursor
  /-- A window is open exactly while items are pending. -/
  window : s.batches.deadline.isSome = !s.batches.pending.isEmpty
  nonempty : ∀ batch ∈ s.returned, batch ≠ []
  lossless : s.returned.flatten ++ s.batches.pending = s.handed

variable {before : List α} {live : Nat} {s : Session α}

theorem Sound.start (window history live : Nat) (before : List α) :
    (start window history live before).Sound before live := by
  obtain ⟨hc, -, hring, hhandles⟩ := (Replay.Holds.create (α := α) history live).publishAll before
  rw [List.nil_append] at hc
  have hitems : before ++ (Session.start window history live before).published = before := List.append_nil _
  exact {
    holds := by
      rw [hitems]
      exact ⟨hc.history, hc.ring, hc.count⟩
    ringCapacity := hring.trans (ringSize_eq live)
    handles := hhandles.le
    stands := by
      rw [hitems]
      exact ⟨_, .subscribe hc⟩
    window := rfl
    nonempty := fun _ hb => by cases hb
    lossless := rfl }

theorem Sound.setClock (h : s.Sound before live) (t : Nat) : (s.setClock t).Sound before live :=
  ⟨h.holds, h.ringCapacity, h.handles, h.stands, h.window, h.nonempty, h.lossless⟩

theorem Sound.push (h : s.Sound before live) {x : α} {source : Receiver α}
    (ht : s.batches.source.take? s.channel = some (x, source)) :
    (s.after [x] (s.batches.push s.now x source, .pending)).Sound before live where
  holds := h.holds
  ringCapacity := h.ringCapacity
  handles := h.handles
  stands := by
    obtain ⟨cursor, hs⟩ := h.stands
    rcases hs.take?_cases h.holds with ⟨y, source', -, ht', hs'⟩ | ⟨-, ht'⟩
    · rw [ht] at ht'
      cases ht'
      exact ⟨_, hs'⟩
    · rw [ht] at ht'
      cases ht'
  window := by
    have hw := h.window
    simp only [after, Batches.push]
    split
    · simp
    · rename_i hp
      rw [hw]
      simp [hp]
  nonempty := by
    simpa [after, Delivery.item?] using h.nonempty
  lossless := by
    simp only [after, Batches.push, Delivery.item?, Option.toList_none, List.append_nil]
    rw [← h.lossless, List.append_assoc]

theorem Sound.flush (h : s.Sound before live) (hp : s.batches.pending ≠ []) :
    (s.after [] s.batches.flush).Sound before live where
  holds := h.holds
  ringCapacity := h.ringCapacity
  handles := h.handles
  stands := h.stands
  window := rfl
  nonempty batch hb := by
    rcases List.mem_append.1 hb with hb | hb
    · exact h.nonempty batch hb
    · rw [List.mem_singleton.1 hb]
      exact hp
  lossless := by
    simp only [after, Batches.flush, Delivery.item?, Option.toList_some, List.append_nil, List.flatten_append,
      List.flatten_singleton]
    exact h.lossless

theorem Sound.answer (h : s.Sound before live) :
    (s.after [] (s.batches.answer s.now s.channel)).Sound before live := by
  rcases s.batches.answer_cases s.now s.channel with ⟨hr, hp⟩ | hr | ⟨hr, hp⟩
  · rw [hr]
    refine h.flush fun hnil => ?_
    have hw := h.window
    rw [hnil] at hw hp
    simp_all
  · rw [hr]
    simpa [after, Delivery.item?] using h
  · rw [hr]
    refine ⟨h.holds, h.ringCapacity, h.handles, h.stands, ?_, ?_, ?_⟩
    · simp [after, hp]
    · simpa [after, Delivery.item?] using h.nonempty
    · simpa [after, Delivery.item?] using h.lossless

theorem after_after (xs ys : List α) (b : Batches α) (r : Batches α × Delivery (List α)) (s : Session α) :
    (s.after xs (b, .pending)).after ys r = s.after (xs ++ ys) r := by
  simp [after, Delivery.item?]

/-- What a turn preserves, a call preserves. -/
theorem Sound.turns (h : s.Sound before live) {taken : List α} {r : Batches α × Delivery (List α)}
    (ht : s.batches.Turns s.now s.channel taken r) : (s.after taken r).Sound before live := by
  generalize hn : s.now = now at ht
  generalize hc : s.channel = c at ht
  generalize hb : s.batches = b at ht
  induction ht generalizing s with
  | answered ht =>
    subst hn hc hb
    rw [Batches.turn_answered ht]
    exact h.answer
  | took ht _ ih =>
    subst hn hc hb
    obtain ⟨source, hy, rfl⟩ := Batches.turn_took ht
    have hs := ih (h.push hy) rfl rfl rfl
    rwa [after_after] at hs

theorem Sound.roomy (h : s.Sound before live) : 0 < s.channel.ringCapacity := by
  rw [h.ringCapacity]
  exact Nat.two_pow_pos _

theorem Sound.poll_turns (h : s.Sound before live) :
    s.batches.Turns s.now s.channel (s.batches.source.available s.channel) (s.batches.poll s.now s.channel) := by
  obtain ⟨cursor, hs⟩ := h.stands
  exact Batches.poll_turns h.holds h.roomy hs

theorem Sound.poll_available (h : s.Sound before live) :
    (s.batches.poll s.now s.channel).1.source.available s.channel = [] := by
  obtain ⟨cursor, hs⟩ := h.stands
  exact Batches.poll_available h.holds h.roomy hs

/-- Waiting is one poll, or one now and one when the window ends. -/
theorem Sound.next_cases (h : s.Sound before live) (limit : Nat) :
    ∃ t, s.step (.next limit) = (s.step .poll).setClock t ∨
      s.step (.next limit) = ((s.step .poll).setClock t).step .poll := by
  have ha := h.poll_available
  simp only [step, Batches.wait]
  cases hp : s.batches.poll s.now s.channel with
  | mk b answer =>
    rw [hp] at ha
    cases answer with
    | item batch => exact ⟨s.now, .inl rfl⟩
    | closed => exact ⟨s.now, .inl rfl⟩
    | pending =>
      cases hd : b.deadline with
      | none => exact ⟨s.now + limit, .inl (by simp only [hd])⟩
      | some d =>
        by_cases hle : d ≤ s.now + limit
        · refine ⟨d, .inr ?_⟩
          have hb : (s.after (s.batches.source.available s.channel) (b, .pending)).setClock d =
            { s with
              batches := b
              now := d
              handed := s.handed ++ s.batches.source.available s.channel } := by
            simp [after, Session.setClock, Delivery.item?]
          have ha : b.source.available s.channel = [] := ha
          simp only [hd, if_pos hle, hb, ha]
          simp [after, Session.setClock]
        · exact ⟨s.now + limit, .inl (by simp only [hd, if_neg hle])⟩

theorem Sound.poll (h : s.Sound before live) : (s.step .poll).Sound before live := h.turns h.poll_turns

theorem Sound.step (h : s.Sound before live) (act : Act α) : (s.step act).Sound before live := by
  cases act with
  | publish x =>
    rw [Session.step]
    split
    · exact h
    · obtain ⟨cursor, hs⟩ := h.stands
      have hitems : before ++ (s.published ++ [x]) = before ++ s.published ++ [x] := (List.append_assoc _ _ _).symm
      exact {
        holds := by
          rw [hitems]
          exact h.holds.publish x
        ringCapacity := h.ringCapacity
        handles := h.handles
        stands := by
          rw [hitems]
          exact ⟨cursor, hs.publish x⟩
        window := h.window
        nonempty := h.nonempty
        lossless := h.lossless }
  | advance ms => exact h.setClock _
  | turn =>
    rw [Session.step]
    cases ht : s.batches.turn s.now s.channel with
    | took x b =>
      obtain ⟨source, hy, rfl⟩ := Batches.turn_took ht
      exact h.push hy
    | answered r => exact h.turns (.answered ht)
  | poll => exact h.poll
  | next limit =>
    obtain ⟨t, ht | ht⟩ := h.next_cases limit
    · rw [ht]
      exact h.poll.setClock t
    · rw [ht]
      exact (h.poll.setClock t).poll
  | close =>
    exact ⟨⟨h.holds.history, h.holds.ring, h.holds.count⟩, h.ringCapacity, (Nat.sub_le _ _).trans h.handles,
      h.stands, h.window, h.nonempty, h.lossless⟩

theorem Sound.run (h : s.Sound before live) (acts : List (Act α)) : (run acts s).Sound before live := by
  induction acts generalizing s with
  | nil => exact h
  | cons act rest ih => exact ih (h.step act)

/-! ## the end -/

/-- The source has closed and everything was delivered. -/
structure Finished (s : Session α) : Prop where
  closed : s.channel.isClosed = true
  pending : s.batches.pending = []
  available : s.batches.source.available s.channel = []

theorem Finished.answer (h : s.Finished) :
    s.batches.answer s.now s.channel = ({ s.batches with deadline := none }, .closed) := by
  rw [Batches.answer, if_pos h.closed, if_pos (List.isEmpty_iff.2 h.pending)]

theorem Finished.turn (h : s.Finished) :
    s.batches.turn s.now s.channel = .answered ({ s.batches with deadline := none }, .closed) := by
  rw [Batches.turn_of_none (Receiver.take?_eq_none_iff.2 h.available), h.answer]

theorem Finished.poll (h : s.Finished) :
    s.batches.poll s.now s.channel = ({ s.batches with deadline := none }, .closed) := by
  rw [Batches.poll_eq, Batches.gather_of_nil h.available, h.answer]

theorem Finished.wait (h : s.Finished) (limit : Nat) :
    s.batches.wait s.now limit s.channel = ({ s.batches with deadline := none }, .closed, s.now) := by
  rw [Batches.wait_of_closed h.closed, h.poll]

/-- Then nothing more is returned, whatever happens. -/
theorem Finished.step (h : s.Finished) (act : Act α) :
    (s.step act).Finished ∧ (s.step act).returned = s.returned := by
  have hclosed : ∀ taken, (s.after taken ({ s.batches with deadline := none }, .closed)).Finished ∧
      (s.after taken ({ s.batches with deadline := none }, .closed)).returned = s.returned := fun taken =>
    ⟨⟨h.closed, h.pending, h.available⟩, List.append_nil _⟩
  cases act with
  | publish x =>
    rw [Session.step, if_pos h.closed]
    exact ⟨h, rfl⟩
  | advance ms => exact ⟨⟨h.closed, h.pending, h.available⟩, rfl⟩
  | turn =>
    rw [Session.step, h.turn]
    exact hclosed _
  | poll =>
    rw [Session.step, h.poll]
    exact hclosed _
  | next limit =>
    rw [Session.step, h.wait]
    exact hclosed _
  | close =>
    have hz : s.channel.handles = 0 := by simpa [Replay.isClosed] using h.closed
    exact ⟨⟨by simp [Session.step, Replay.isClosed, Replay.drop, hz], h.pending, h.available⟩, rfl⟩

theorem Finished.run (h : s.Finished) (acts : List (Act α)) :
    (run acts s).Finished ∧ (run acts s).returned = s.returned := by
  induction acts generalizing s with
  | nil => exact ⟨h, rfl⟩
  | cons act rest ih =>
    obtain ⟨hf, hr⟩ := h.step act
    exact ⟨(ih hf).1, (ih hf).2.trans hr⟩

/-! ## a reader that keeps up -/

/-- The reader is not behind by more than a ring. -/
def KeepsUp (live : Nat) (s : Session α) : Prop :=
  s.channel.count ≤ s.batches.source.next + 2 ^ Nat.clog 2 live

/-- What was handed out, and what is there to be, are these items and all that was published since. -/
def Whole (first : List α) (s : Session α) : Prop :=
  s.handed ++ s.batches.source.available s.channel = first ++ s.published

variable {first : List α}

/-- A call takes from what is there. -/
theorem Whole.turns (hw : s.Whole first) (h : s.Sound before live) {taken : List α}
    {r : Batches α × Delivery (List α)} (ht : s.batches.Turns s.now s.channel taken r) :
    (s.after taken r).Whole first := by
  have ha := ht.available h.holds
  show s.handed ++ taken ++ r.1.source.available s.channel = first ++ s.published
  rw [List.append_assoc, ← ha]
  exact hw

theorem Whole.publish (hw : s.Whole first) (h : s.Sound before live) (hc : s.channel.isClosed = false) {x : α}
    (hk : (s.step (.publish x)).KeepsUp live) : (s.step (.publish x)).Whole first := by
  have hx := h.step (.publish x)
  rw [step, hc] at *
  obtain ⟨cursor, hs⟩ := h.stands
  have hclose : s.channel.count + 1 ≤ s.batches.source.next + s.channel.ringCapacity := by
    rw [h.ringCapacity]
    exact hk
  have hbefore := hs.available_of_close h.holds (Nat.le_of_succ_le hclose)
  have hafter := (hs.publish x).available_of_close (h.holds.publish x) hclose
  rw [List.drop_append_of_le_length hs.cursor_le, ← hbefore] at hafter
  show s.handed ++ s.batches.source.available (s.channel.publish x) = first ++ (s.published ++ [x])
  rw [hafter, ← List.append_assoc, hw, List.append_assoc]

theorem Whole.poll (hw : s.Whole first) (h : s.Sound before live) : (s.step .poll).Whole first :=
  hw.turns h h.poll_turns

theorem Whole.step (hw : s.Whole first) (h : s.Sound before live) {act : Act α}
    (hk : (s.step act).KeepsUp live) : (s.step act).Whole first := by
  cases act with
  | publish x =>
    cases hc : s.channel.isClosed with
    | true =>
      rw [Session.step, if_pos hc]
      exact hw
    | false => exact hw.publish h hc hk
  | advance ms => exact hw
  | turn =>
    rw [Session.step]
    cases ht : s.batches.turn s.now s.channel with
    | took x b =>
      obtain ⟨source, hy, rfl⟩ := Batches.turn_took ht
      have ha := Receiver.available_of_take? h.holds hy
      show s.handed ++ [x] ++ source.available s.channel = first ++ s.published
      rw [List.append_assoc, List.singleton_append, ← ha]
      exact hw
    | answered r => exact hw.turns h (.answered ht)
  | poll => exact hw.poll h
  | next limit =>
    obtain ⟨t, ht | ht⟩ := h.next_cases limit
    · rw [ht]
      exact hw.poll h
    · rw [ht]
      exact Whole.poll (s := (s.step .poll).setClock t) (hw.poll h) (h.poll.setClock t)
  | close => exact hw

/-- The last items before the reader came are there for it. -/
theorem Whole.start (window history live : Nat) (before : List α) :
    (start window history live before).Whole (before.drop (before.length - min history before.length)) := by
  obtain ⟨hc, hcapacity, -⟩ := (Replay.Holds.create (α := α) history live).publishAll before
  rw [List.nil_append] at hc
  generalize hchannel : (Replay.create history live).publishAll before = c at hc hcapacity
  have hfirst : before.length - min history before.length = before.length - c.capacity := by
    rw [hcapacity]
    show _ = before.length - history
    omega
  have hlive : c.liveFrom c.count = [] := by
    rw [hc.liveFrom, hc.count]
    exact List.drop_eq_nil_of_le (Nat.le_max_left _ _)
  rw [Whole, Session.start, hchannel, hfirst]
  show c.history ++ c.liveFrom c.count = _
  rw [hlive, hc.history]
  rfl

theorem Whole.run {s : Session α} (hw : s.Whole first) (h : s.Sound before live) {acts : List (Act α)}
    (hk : ∀ done, done <+: acts → (run done s).KeepsUp live) : (run acts s).Whole first := by
  induction acts generalizing s with
  | nil => exact hw
  | cons act rest ih =>
    refine ih (hw.step h (hk [act] ⟨rest, rfl⟩)) (h.step act) fun done hd => ?_
    exact hk (act :: done) (List.cons_prefix_cons.2 ⟨rfl, hd⟩)

/-- A call that was given up goes on with the same window, and the end cuts the last window short. -/
example :
    let acts : List (Act Nat) :=
      [.publish 0, .next 60, .publish 1, .next 39, .publish 2, .next 100, .publish 3, .turn, .close, .poll, .poll]
    (run acts (start 100 1 64 [8, 9])).returned = [[9, 0, 1, 2], [3]] := by decide

end Session

end ProxyKeeper.Feed

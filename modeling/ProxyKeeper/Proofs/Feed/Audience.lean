/-
A channel that replays and all its subscribers, over whole runs: items are
published, subscribers come and go and read, in any order.

A subscriber's reads are numbers, each with how many items were published by
then (`Path`): the next number is always the one that is due (`Path.split`),
so what is owed from the past comes first and without a gap (`Path.past`) and
a live item is passed over only when the ring has lost it (`Path.skipped`).
`Listener.Follows` ties the numbers to the items: it is kept by every step of
anybody (`sound_step`), and a step of one subscriber is nothing to another
(`Alike.step_other`).
-/
import ProxyKeeper.Proofs.Feed.Channel
import ProxyKeeper.Proofs.Lists

namespace ProxyKeeper.Feed

variable {α : Type}

/-- Waiting for an item takes the same one as taking it without waiting. -/
theorem Receiver.receive_item? (r : Receiver α) (c : Replay α) :
    ((r.receive c).1, (r.receive c).2.item?) = r.tryReceive c := by
  rw [receive, tryReceive]
  cases r.take? c with
  | some xr => rfl
  | none => cases hc : c.isClosed <;> simp [Delivery.item?]

/-! ## numbers -/

/-- The numbers that a subscriber may have read who came after `attached` items and began with number `first`,
each with how many items were published by then, and the cursor behind the last. -/
inductive Path (ring attached first : Nat) : List (Nat × Nat) → Nat → Prop
  | start : Path ring attached first [] first
  | read {reads cursor published} : Path ring attached first reads cursor →
      due ring attached cursor published < published →
      Path ring attached first (reads ++ [(due ring attached cursor published, published)])
        (due ring attached cursor published + 1)

theorem le_due (ring attached cursor published : Nat) : cursor ≤ due ring attached cursor published := by
  rw [due]
  split
  · exact Nat.le_refl _
  · exact Nat.le_max_left _ _

namespace Path

variable {ring attached first cursor : Nat} {reads : List (Nat × Nat)}

/-- The cursor stands behind the last number that was read. -/
theorem cursor_eq (h : Path ring attached first reads cursor) :
    cursor = reads.getLast?.elim first (·.1 + 1) := by
  cases h with
  | start => rfl
  | read _ _ => simp

/-- Every number that was read was due when it was read. -/
theorem split (h : Path ring attached first reads cursor) {done rest : List (Nat × Nat)} {k n : Nat}
    (hr : reads = done ++ (k, n) :: rest) :
    ∃ before, Path ring attached first done before ∧ k = due ring attached before n ∧ k < n := by
  induction h generalizing rest with
  | start => simp at hr
  | read hp hlt ih =>
    rcases eq_or_of_append_singleton hr with ⟨rfl, he⟩ | ⟨rest, hr⟩
    · cases he
      exact ⟨_, hp, rfl, hlt⟩
    · exact ih hr

theorem lt_cursor (h : Path ring attached first reads cursor) : ∀ p ∈ reads, p.1 < cursor := by
  induction h with
  | start => simp
  | @read reads cursor published _ _ ih =>
    have hle := le_due ring attached cursor published
    intro p hp
    rcases List.mem_append.1 hp with hp | hp
    · have := ih p hp
      omega
    · rw [List.mem_singleton.1 hp]
      exact Nat.lt_succ_self _

theorem increasing (h : Path ring attached first reads cursor) : (reads.map (·.1)).Pairwise (· < ·) := by
  induction h with
  | start => exact .nil
  | @read reads cursor published hp _ ih =>
    have hle := le_due ring attached cursor published
    rw [List.map_append, List.pairwise_append]
    refine ⟨ih, List.pairwise_singleton _ _, fun k hk j hj => ?_⟩
    obtain ⟨p, hm, rfl⟩ := List.mem_map.1 hk
    have := hp.lt_cursor p hm
    have hj : j = due ring attached cursor published := by simpa using hj
    omega

/-- The reads run through the past one by one; only then the cursor is among the live items. -/
theorem cursor_cases (h : Path ring attached first reads cursor) (hf : first ≤ attached) :
    reads.length < attached - first ∧ cursor = first + reads.length ∨
      attached - first ≤ reads.length ∧ attached ≤ cursor := by
  induction h with
  | start => simp; omega
  | @read reads cursor published _ _ ih =>
    rw [List.length_append, List.length_singleton, due]
    split <;> omega

theorem past (h : Path ring attached first reads cursor) (hf : first ≤ attached) :
    (reads.map (·.1)).take (attached - first) = (List.range' first (attached - first)).take reads.length := by
  induction h with
  | start => simp
  | @read reads cursor published hp _ ih =>
    rw [List.map_append, List.length_append, List.length_singleton]
    rcases hp.cursor_cases hf with ⟨hl, hc⟩ | ⟨hl, hc⟩
    · have hd : due ring attached cursor published = first + reads.length := by
        rw [due, if_pos (by omega), hc]
      have hr : (List.range' first (attached - first))[reads.length]? = some (first + reads.length) := by
        rw [List.getElem?_range' hl, Nat.one_mul]
      rw [List.take_of_length_le (by simpa using hl.le)] at ih
      rw [List.take_of_length_le (by simpa using Nat.succ_le_of_lt hl), List.take_add_one, hr, ← ih, hd]
      rfl
    · rw [List.take_append_of_le_length (by simpa using hl), ih, List.take_of_length_le (by simpa using hl),
        List.take_of_length_le (by rw [List.length_range']; omega)]

/-- A live item is passed over only when the ring has lost it. -/
theorem skipped (h : Path ring attached first reads cursor) (hf : first ≤ attached)
    {done rest : List (Nat × Nat)} {k n : Nat} (hr : reads = done ++ (k, n) :: rest) {j : Nat} (hj : attached ≤ j)
    (hdone : ∀ p ∈ done, p.1 < j) (hk : j < k) : j + 1 + ring ≤ n := by
  obtain ⟨before, hp, rfl, -⟩ := h.split hr
  have hb : before ≤ j := by
    rw [hp.cursor_eq]
    cases hl : done.getLast? with
    | none => exact Nat.le_trans hf hj
    | some p => exact hdone p (List.mem_of_getLast? hl)
  rw [due] at hk
  split at hk <;> omega

/-- What is read after the past is live. -/
theorem live (h : Path ring attached first reads cursor) (hf : first ≤ attached) :
    ∀ p ∈ reads.drop (attached - first), attached ≤ p.1 := by
  induction h with
  | start => simp
  | @read reads cursor published hp _ ih =>
    have hle := le_due ring attached cursor published
    intro p hp'
    rw [List.drop_append] at hp'
    rcases List.mem_append.1 hp' with hm | hm
    · exact ih p hm
    · have hl : attached - first ≤ reads.length := by
        refine Nat.le_of_not_lt fun hlt => ?_
        rw [List.drop_eq_nil_of_le (by simp; omega)] at hm
        cases hm
      rw [List.mem_singleton.1 (List.mem_of_mem_drop hm)]
      rcases hp.cursor_cases hf with ⟨hlt, -⟩ | ⟨-, hc⟩
      · omega
      · exact Nat.le_trans hc hle

end Path

/-! ## subscribers and what they are handed -/

/-- A subscriber with all that it was handed, each item with how many were published by then. -/
structure Listener (α : Type) where
  receiver : Receiver α
  /-- How many items were published before it came. -/
  attached : Nat
  received : List (Nat × α)

/-- The subscriber after a read. -/
def Listener.hear (published : Nat) (read : Receiver α × Option α) (l : Listener α) : Listener α :=
  { l with receiver := read.1, received := l.received ++ read.2.toList.map fun x => (published, x) }

/-- A channel and its subscribers by name. -/
structure Audience (α : Type) where
  channel : Replay α
  listener? : String → Option (Listener α)

namespace Audience

/-- What may happen: each kind of read is one call. -/
inductive Act (α : Type) where
  | publish (x : α)
  | subscribe (name : String)
  | unsubscribe (name : String)
  | receive (name : String)
  | tryReceive (name : String)

/-- The item that an act publishes. -/
def Act.published? : Act α → Option α
  | .publish x => some x
  | .subscribe _ | .unsubscribe _ | .receive _ | .tryReceive _ => none

/-- Whether an act is the channel's or the subscriber's of this name. -/
def Act.concerns (name : String) : Act α → Bool
  | .publish _ => true
  | .subscribe x | .unsubscribe x | .receive x | .tryReceive x => x == name

/-- A channel for so many past items and rings of so many live ones, with nobody there. -/
def create (history live : Nat) : Audience α := ⟨.create history live, fun _ => none⟩

def seat (name : String) (l : Option (Listener α)) (s : Audience α) : String → Option (Listener α) :=
  fun x => if x = name then l else s.listener? x

/-- One read of a subscriber, if it is there. -/
def read (name : String) (ask : Receiver α → Receiver α × Option α) (s : Audience α) : Audience α :=
  { s with listener? := s.seat name ((s.listener? name).map fun l => l.hear s.channel.count (ask l.receiver)) }

/-- One act. A name that is taken is not given again before its subscriber has left. -/
def step (s : Audience α) : Act α → Audience α
  | .publish x => { s with channel := s.channel.publish x }
  | .subscribe name =>
    match s.listener? name with
    | some _ => s
    | none =>
      let (channel, receiver) := s.channel.subscribe
      ⟨channel, s.seat name (some ⟨receiver, s.channel.count, []⟩)⟩
  | .unsubscribe name =>
    match s.listener? name with
    | some _ => ⟨s.channel.unsubscribe, s.seat name none⟩
    | none => s
  | .receive name => s.read name fun r => ((r.receive s.channel).1, (r.receive s.channel).2.item?)
  | .tryReceive name => s.read name (·.tryReceive s.channel)

def run (acts : List (Act α)) (s : Audience α) : Audience α := acts.foldl step s

end Audience

/-! ## the invariant -/

/-- What a subscriber was handed are the items of the numbers that it read. -/
structure Listener.Follows (history ring : Nat) (items : List α) (reads : List (Nat × Nat)) (cursor : Nat)
    (l : Listener α) : Prop where
  path : Path ring l.attached (l.attached - history) reads cursor
  stands : l.receiver.Stands items l.attached cursor
  values : reads.map (fun (k, n) => (n, items[k]?)) = l.received.map fun (n, x) => (n, some x)

/-- The channel has published these items, and every subscriber follows them. -/
structure Audience.Sound (history ring : Nat) (items : List α) (s : Audience α) : Prop where
  holds : s.channel.Holds items
  capacity : s.channel.capacity = history
  ringCapacity : s.channel.ringCapacity = ring
  follows : ∀ name l, s.listener? name = some l → ∃ reads cursor, l.Follows history ring items reads cursor

namespace Listener

variable {history ring cursor : Nat} {items : List α} {reads : List (Nat × Nat)} {l : Listener α}

theorem Follows.publish (h : l.Follows history ring items reads cursor) (x : α) :
    l.Follows history ring (items ++ [x]) reads cursor where
  path := h.path
  stands := h.stands.publish x
  values := by
    rw [← h.values]
    refine List.map_congr_left fun ⟨k, n⟩ hp => ?_
    have hk : k < items.length := Nat.lt_of_lt_of_le (h.path.lt_cursor _ hp) h.stands.cursor_le
    show (n, (items ++ [x])[k]?) = (n, items[k]?)
    rw [List.getElem?_append_left hk]

theorem Follows.subscribe {c : Replay α} (h : c.Holds items) :
    (⟨c.subscribe.2, items.length, []⟩ : Listener α).Follows c.capacity ring items [] (items.length - c.capacity) where
  path := .start
  stands := .subscribe h
  values := rfl

/-- A read goes on along the path, or finds nothing and leaves the subscriber as it is. -/
theorem Follows.hear {c : Replay α} (hc : c.Holds items) (hring : c.ringCapacity = ring)
    (h : l.Follows history ring items reads cursor) :
    ∃ reads cursor, (l.hear c.count (l.receiver.tryReceive c)).Follows history ring items reads cursor := by
  rcases h.stands.take?_cases hc with ⟨x, r, hx, ht, hr⟩ | ⟨-, ht⟩
  · rw [hring] at hx hr
    have hlt : due ring l.attached cursor items.length < items.length := (List.getElem?_eq_some_iff.1 hx).1
    refine ⟨_, _, h.path.read hlt, ?_, ?_⟩
    · rw [Listener.hear, Receiver.tryReceive, ht]
      exact hr
    · rw [Listener.hear, Receiver.tryReceive, ht, List.map_append, h.values, hc.count]
      simp [hx]
  · refine ⟨reads, cursor, ?_⟩
    rw [Listener.hear, Receiver.tryReceive, ht]
    simpa using h

end Listener

namespace Audience

variable {history ring : Nat} {items : List α} {s : Audience α}

theorem Sound.create (history live : Nat) : (create history live : Audience α).Sound history (ringSize live) [] where
  holds := .create history live
  capacity := rfl
  ringCapacity := rfl
  follows name l hl := by cases hl

theorem receive_eq_tryReceive (s : Audience α) (name : String) : s.step (.receive name) = s.step (.tryReceive name) := by
  simp only [step, Receiver.receive_item?]

theorem sound_seat (h : s.Sound history ring items) {name : String} {l? : Option (Listener α)}
    (hl : ∀ l, l? = some l → ∃ reads cursor, l.Follows history ring items reads cursor) :
    ∀ x l, s.seat name l? x = some l → ∃ reads cursor, l.Follows history ring items reads cursor := by
  intro x l hx
  rw [seat] at hx
  split at hx
  · exact hl l hx
  · exact h.follows x l hx

theorem sound_step (h : s.Sound history ring items) (act : Act α) :
    (s.step act).Sound history ring (items ++ act.published?.toList) := by
  have read : ∀ name, (s.step (.tryReceive name)).Sound history ring items := by
    intro name
    refine ⟨h.holds, h.capacity, h.ringCapacity, sound_seat h fun l hl => ?_⟩
    obtain ⟨before, hbefore, rfl⟩ := Option.map_eq_some_iff.1 hl
    obtain ⟨reads, cursor, hf⟩ := h.follows name before hbefore
    exact hf.hear h.holds h.ringCapacity
  cases act with
  | publish x =>
    refine ⟨h.holds.publish x, h.capacity, h.ringCapacity, fun name l hl => ?_⟩
    obtain ⟨reads, cursor, hf⟩ := h.follows name l hl
    exact ⟨reads, cursor, hf.publish x⟩
  | subscribe name =>
    simp only [Act.published?, Option.toList_none, List.append_nil, step]
    cases s.listener? name with
    | some l => exact h
    | none =>
      refine ⟨⟨h.holds.history, h.holds.ring, h.holds.count⟩, h.capacity, h.ringCapacity, sound_seat h fun l hl => ?_⟩
      cases hl
      rw [h.holds.count, ← h.capacity]
      exact ⟨[], _, .subscribe h.holds⟩
  | unsubscribe name =>
    simp only [Act.published?, Option.toList_none, List.append_nil, step]
    cases s.listener? name with
    | none => exact h
    | some l =>
      exact ⟨⟨h.holds.history, h.holds.ring, h.holds.count⟩, h.capacity, h.ringCapacity,
        sound_seat h fun l hl => by cases hl⟩
  | receive name =>
    rw [receive_eq_tryReceive, Act.published?, Option.toList_none, List.append_nil]
    exact read name
  | tryReceive name =>
    rw [Act.published?, Option.toList_none, List.append_nil]
    exact read name

theorem sound_run (h : s.Sound history ring items) (acts : List (Act α)) :
    (run acts s).Sound history ring (items ++ acts.filterMap Act.published?) := by
  induction acts generalizing s items with
  | nil => simpa [run] using h
  | cons act rest ih =>
    have hs := ih (sound_step h act)
    rw [List.append_assoc] at hs
    have hp : act.published?.toList ++ rest.filterMap Act.published? = (act :: rest).filterMap Act.published? := by
      rw [List.filterMap_cons]
      cases act.published? <;> rfl
    rwa [hp] at hs

/-! ## one subscriber among others -/

/-- Two audiences that are the same to one subscriber: they may differ in who else is there. -/
structure Alike (name : String) (s t : Audience α) : Prop where
  channel : ∃ n, s.channel = { t.channel with subscribers := n }
  listener : s.listener? name = t.listener? name

theorem seat_self (s : Audience α) (name : String) (l? : Option (Listener α)) : s.seat name l? name = l? := by
  rw [seat, if_pos rfl]

theorem seat_of_ne (s : Audience α) {name x : String} (l? : Option (Listener α)) (h : x ≠ name) :
    s.seat name l? x = s.listener? x := by rw [seat, if_neg h]

theorem Alike.read {name : String} {s t : Audience α} (h : Alike name s t) :
    Alike name (s.step (.tryReceive name)) (t.step (.tryReceive name)) where
  channel := h.channel
  listener := by
    obtain ⟨n, hn⟩ := h.channel
    have hcount : s.channel.count = t.channel.count := by rw [hn]
    have hask : ∀ r : Receiver α, r.tryReceive s.channel = r.tryReceive t.channel := fun r => by rw [hn]; rfl
    simp only [step, Audience.read, seat_self, h.listener, hcount, hask]

/-- What the channel does, and what a subscriber does itself, comes to the same for it. -/
theorem Alike.step {name : String} {s t : Audience α} (h : Alike name s t) {act : Act α}
    (ha : act.concerns name = true) : Alike name (s.step act) (t.step act) := by
  obtain ⟨n, hn⟩ := h.channel
  cases act with
  | publish x => exact ⟨⟨n, by simp only [Audience.step, hn]; rfl⟩, h.listener⟩
  | subscribe x =>
    have hx : x = name := by simpa [Act.concerns] using ha
    subst hx
    simp only [Audience.step, h.listener]
    cases ht : t.listener? x with
    | some l => exact h
    | none => exact ⟨⟨n + 1, by rw [hn]; rfl⟩, by simp only [seat_self, hn]; rfl⟩
  | unsubscribe x =>
    have hx : x = name := by simpa [Act.concerns] using ha
    subst hx
    simp only [Audience.step, h.listener]
    cases ht : t.listener? x with
    | some l => exact ⟨⟨n - 1, by rw [hn]; rfl⟩, by simp only [seat_self]⟩
    | none => exact h
  | receive x =>
    have hx : x = name := by simpa [Act.concerns] using ha
    rw [receive_eq_tryReceive, receive_eq_tryReceive, hx]
    exact h.read
  | tryReceive x =>
    have hx : x = name := by simpa [Act.concerns] using ha
    rw [hx]
    exact h.read

/-- What others do is nothing to a subscriber. -/
theorem Alike.step_other {name : String} {s t : Audience α} (h : Alike name s t) {act : Act α}
    (ha : act.concerns name = false) : Alike name (s.step act) t := by
  obtain ⟨n, hn⟩ := h.channel
  have read : ∀ x, x ≠ name → Alike name (s.step (.tryReceive x)) t := fun x hx =>
    ⟨⟨n, hn⟩, (s.seat_of_ne _ (Ne.symm hx)).trans h.listener⟩
  cases act with
  | publish x => cases ha
  | subscribe x =>
    have hx : x ≠ name := by simpa [Act.concerns] using ha
    simp only [Audience.step]
    cases s.listener? x with
    | some l => exact h
    | none => exact ⟨⟨n + 1, by rw [hn]; rfl⟩, (s.seat_of_ne _ (Ne.symm hx)).trans h.listener⟩
  | unsubscribe x =>
    have hx : x ≠ name := by simpa [Act.concerns] using ha
    simp only [Audience.step]
    cases s.listener? x with
    | some l => exact ⟨⟨n - 1, by rw [hn]; rfl⟩, (s.seat_of_ne _ (Ne.symm hx)).trans h.listener⟩
    | none => exact h
  | receive x =>
    have hx : x ≠ name := by simpa [Act.concerns] using ha
    rw [receive_eq_tryReceive]
    exact read x hx
  | tryReceive x =>
    have hx : x ≠ name := by simpa [Act.concerns] using ha
    exact read x hx

theorem Alike.run {name : String} {s t : Audience α} (h : Alike name s t) (acts : List (Act α)) :
    Alike name (run acts s) (run (acts.filter (·.concerns name)) t) := by
  induction acts generalizing s t with
  | nil => exact h
  | cons act rest ih =>
    rw [List.filter_cons]
    cases ha : act.concerns name with
    | true => exact ih (h.step ha)
    | false => exact ih (h.step_other ha)

/-- **The past and the live items meet without a gap**, for every size of history and ring and whatever
happens in whatever order. The channel keeps the last items, in order. A subscriber that came after `m` items is
handed the last of those first, one by one and all of them, and then live items in the order of their numbers; it
passes over a live item only when the ring has lost it at the time of the read. What it is handed next is settled
by what it was handed last, and nothing that other subscribers do makes a difference to it. -/
theorem audience_hears_without_gap (history live : Nat) (acts : List (Act α)) :
    let s := run acts (create history live)
    let items := acts.filterMap Act.published?
    let ring := 2 ^ Nat.clog 2 live
    s.channel.history = items.drop (items.length - min history items.length) ∧
      s.channel.count = items.length ∧
      (∀ name l, s.listener? name = some l →
        let m := l.attached
        let past := List.range' (m - min history m) (min history m)
        ∃ reads : List (Nat × Nat),
          reads.map (fun (k, n) => (n, items[k]?)) = l.received.map (fun (n, x) => (n, some x)) ∧
            (reads.map (·.1)).take past.length = past.take reads.length ∧
            (∀ p ∈ reads.drop past.length, m ≤ p.1) ∧
            (reads.map (·.1)).Pairwise (· < ·) ∧
            (∀ done k n rest, reads = done ++ (k, n) :: rest →
              ∀ j, m ≤ j → (∀ p ∈ done, p.1 < j) → j < k → j + 1 + ring ≤ n) ∧
            let next := reads.getLast?.elim (m - min history m) (·.1 + 1)
            (l.receiver.tryReceive s.channel).2 =
                (if next < m then items[next]? else items[max next (items.length - ring)]?) ∧
              (l.receiver.receive s.channel).2.item? = (l.receiver.tryReceive s.channel).2) ∧
      ∀ name, s.listener? name = (run (acts.filter (·.concerns name)) (create history live)).listener? name := by
  intro s items ring
  have hs : s.Sound history ring items := by
    have h := sound_run (Sound.create (α := α) history live) acts
    rwa [List.nil_append, ringSize_eq] at h
  refine ⟨?_, hs.holds.count, fun name l hl => ?_, fun name => ?_⟩
  · rw [hs.holds.history, hs.capacity, lastN]
    congr 1
    omega
  · obtain ⟨reads, cursor, hf⟩ := hs.follows name l hl
    have hfirst : l.attached - min history l.attached = l.attached - history := by omega
    have hmin : min history l.attached = l.attached - (l.attached - history) := by omega
    have hle : l.attached - history ≤ l.attached := Nat.sub_le _ _
    simp only [List.length_range', hfirst]
    refine ⟨reads, hf.values, ?_, ?_, hf.path.increasing, fun done k n rest hr j hj hd hk =>
      hf.path.skipped hle hr hj hd hk, ?_, congrArg Prod.snd (Receiver.receive_item? _ _)⟩
    · rw [hmin]
      exact hf.path.past hle
    · rw [hmin]
      exact hf.path.live hle
    · rw [← hf.path.cursor_eq, hf.stands.tryReceive_item hs.holds, hs.ringCapacity, due]
      split <;> rfl
  · have h : Alike name (create (α := α) history live) (create history live) := ⟨⟨0, rfl⟩, rfl⟩
    exact (h.run acts).listener

end Audience

end ProxyKeeper.Feed

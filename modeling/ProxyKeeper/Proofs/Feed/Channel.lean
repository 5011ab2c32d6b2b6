/-
A channel that replays, by the numbers of its items.

A channel that published `items` keeps the last of them twice: so many for
who comes late, so many for who is slow (`Replay.Holds`). A subscriber is a
cursor over the items (`Receiver.Stands`): it came after the first `attached`
of them and is owed number `cursor` next. While the cursor is among the items
that were there before it came, they wait in its backlog and nothing is lost;
behind them it is the ring that decides, and a cursor that has fallen out of
it goes on with the oldest item there is (`due`).

`Stands.tryReceive_item` is the law of one read: the item that is due, or
nothing if there is none. The backlog and the ring meet at the number
`attached`, so no item is in both and none between them.
-/
import Mathlib.Algebra.Group.Nat.Defs
import Mathlib.Data.Nat.Log
import ProxyKeeper.Feed.Replay

namespace ProxyKeeper

namespace Feed

variable {α : Type}

/-! ## sizes -/

theorem powerFrom_eq {n fuel k : Nat} (h : n ≤ 2 ^ (k + fuel)) :
    powerFrom n fuel (2 ^ k) = 2 ^ max k (Nat.clog 2 n) := by
  induction fuel generalizing k with
  | zero =>
    have h : n ≤ 2 ^ k := h
    rw [powerFrom, max_eq_left (Nat.clog_le_of_le_pow h)]
  | succ fuel ih =>
    rw [powerFrom]
    split
    · rename_i hn
      rw [max_eq_left (Nat.clog_le_of_le_pow hn)]
    · rename_i hn
      have hk : k < Nat.clog 2 n := (Nat.lt_clog_iff_pow_lt Nat.one_lt_two).2 (Nat.lt_of_not_le hn)
      rw [← Nat.pow_succ', ih (by rwa [Nat.succ_add, ← Nat.add_succ]), max_eq_right hk, max_eq_right hk.le]

/-- A ring is the least power of two that holds as many items as are wanted, and one at least. -/
theorem ringSize_eq (wanted : Nat) : ringSize wanted = 2 ^ Nat.clog 2 wanted := by
  have h : wanted ≤ 2 ^ (0 + wanted) := by simpa using Nat.lt_two_pow_self.le
  have h := powerFrom_eq h
  rwa [Nat.zero_max] at h

theorem length_lastN (n : Nat) (l : List α) : (lastN n l).length = min n l.length := by
  rw [lastN, List.length_drop]
  omega

/-- What falls out of the last `n` is not missed later. -/
theorem lastN_concat (n : Nat) (l : List α) (x : α) : lastN n (lastN n l ++ [x]) = lastN n (l ++ [x]) := by
  have hl := length_lastN n l
  rw [lastN, List.length_append, hl, lastN, lastN, List.length_append, List.length_singleton,
    List.drop_append, List.drop_append, List.drop_drop, List.length_drop]
  congr 2 <;> omega

/-! ## the channel -/

namespace Replay

/-- The channel has published these items. -/
structure Holds (items : List α) (c : Replay α) : Prop where
  history : c.history = lastN c.capacity items
  ring : c.ring = lastN c.ringCapacity items
  count : c.count = items.length

theorem Holds.create (history live : Nat) : Holds ([] : List α) (.create history live) where
  history := by simp [Replay.create, lastN]
  ring := by simp [Replay.create, lastN]
  count := rfl

theorem Holds.publish {items : List α} {c : Replay α} (h : Holds items c) (x : α) :
    Holds (items ++ [x]) (c.publish x) where
  history := by
    show lastN c.capacity (c.history ++ [x]) = _
    rw [h.history, lastN_concat]
    rfl
  ring := by
    show lastN c.ringCapacity (c.ring ++ [x]) = _
    rw [h.ring, lastN_concat]
    rfl
  count := by
    show c.count + 1 = _
    rw [h.count, List.length_append, List.length_singleton]

theorem Holds.publishAll {items : List α} {c : Replay α} (h : Holds items c) (xs : List α) :
    Holds (items ++ xs) (c.publishAll xs) ∧ (c.publishAll xs).capacity = c.capacity ∧
      (c.publishAll xs).ringCapacity = c.ringCapacity ∧ (c.publishAll xs).handles = c.handles := by
  induction xs generalizing items c with
  | nil => exact ⟨by rwa [List.append_nil], rfl, rfl, rfl⟩
  | cons x xs ih =>
    have hx := ih (h.publish x)
    rwa [List.append_assoc] at hx

/-- What is there for a live subscriber: the items from its own on, or from the oldest that is held. -/
theorem Holds.liveFrom {items : List α} {c : Replay α} (h : Holds items c) (next : Nat) :
    c.liveFrom next = items.drop (max next (items.length - c.ringCapacity)) := by
  have hl := length_lastN c.ringCapacity items
  rw [Replay.liveFrom, h.ring, h.count, hl, lastN, List.drop_drop]
  congr 1
  omega

end Replay

/-! ## subscribers -/

/-- The number of the item that is due to a subscriber: one of the past in any case, a live one unless the
ring has lost it. -/
def due (ring attached cursor count : Nat) : Nat :=
  if cursor < attached then cursor else max cursor (count - ring)

namespace Receiver

/-- The subscriber came after `attached` of the items and is owed number `cursor` of them next. -/
structure Stands (items : List α) (attached cursor : Nat) (r : Receiver α) : Prop where
  attached_le : attached ≤ items.length
  cursor_le : cursor ≤ items.length
  backlog : r.backlog = (items.take attached).drop cursor
  next : r.next = max attached cursor

theorem Stands.subscribe {items : List α} {c : Replay α} (h : c.Holds items) :
    Stands items items.length (items.length - c.capacity) c.subscribe.2 where
  attached_le := Nat.le_refl _
  cursor_le := Nat.sub_le _ _
  backlog := by
    rw [List.take_length]
    exact h.history
  next := by
    show c.count = _
    rw [h.count, max_eq_left (Nat.sub_le _ _)]

theorem Stands.publish {items : List α} {attached cursor : Nat} {r : Receiver α} (h : r.Stands items attached cursor)
    (x : α) : r.Stands (items ++ [x]) attached cursor where
  attached_le := by rw [List.length_append]; exact Nat.le_add_right_of_le h.attached_le
  cursor_le := by rw [List.length_append]; exact Nat.le_add_right_of_le h.cursor_le
  backlog := by rw [List.take_append_of_le_length h.attached_le]; exact h.backlog
  next := h.next

/-- One read: the item that is due, or nothing, and then every item was passed. -/
theorem Stands.take?_cases {items : List α} {c : Replay α} (hc : c.Holds items) {attached cursor : Nat}
    {r : Receiver α} (h : r.Stands items attached cursor) :
    (∃ x r', items[due c.ringCapacity attached cursor items.length]? = some x ∧ r.take? c = some (x, r') ∧
      r'.Stands items attached (due c.ringCapacity attached cursor items.length + 1)) ∨
      items.length ≤ due c.ringCapacity attached cursor items.length ∧ r.take? c = none := by
  rw [due]
  split
  · rename_i hlt
    have hcursor : cursor < items.length := Nat.lt_of_lt_of_le hlt h.attached_le
    have hb : r.backlog = items[cursor] :: (items.take attached).drop (cursor + 1) := by
      have hlen : cursor < (items.take attached).length := by
        rw [List.length_take]
        exact Nat.lt_min.2 ⟨hlt, hcursor⟩
      rw [h.backlog, List.drop_eq_getElem_cons hlen, List.getElem_take]
    refine .inl ⟨items[cursor], _, List.getElem?_eq_getElem hcursor, by simp only [take?, hb]; rfl, ?_⟩
    refine ⟨h.attached_le, hcursor, rfl, ?_⟩
    show r.next = _
    rw [h.next]
    omega
  · rename_i hge
    have hb : r.backlog = [] := by
      rw [h.backlog, List.drop_eq_nil_iff, List.length_take]
      omega
    have hnext : r.next = cursor := by rw [h.next]; omega
    have hlive := hc.liveFrom r.next
    rw [hnext] at hlive
    by_cases hlt : max cursor (items.length - c.ringCapacity) < items.length
    · rw [List.drop_eq_getElem_cons hlt] at hlive
      refine .inl ⟨_, _, List.getElem?_eq_getElem hlt, by simp only [take?, hb, hnext, hlive]; rfl, ?_⟩
      refine ⟨h.attached_le, hlt, ?_, ?_⟩
      · refine (List.drop_eq_nil_iff.2 ?_).symm
        rw [List.length_take]
        omega
      · show c.count - _ = _
        rw [hc.count, List.length_drop]
        omega
    · rw [List.drop_eq_nil_of_le (Nat.le_of_not_lt hlt)] at hlive
      exact .inr ⟨Nat.le_of_not_lt hlt, by simp only [take?, hb, hnext, hlive]⟩

theorem Stands.tryReceive_item {items : List α} {c : Replay α} (hc : c.Holds items) {attached cursor : Nat}
    {r : Receiver α} (h : r.Stands items attached cursor) :
    (r.tryReceive c).2 = items[due c.ringCapacity attached cursor items.length]? := by
  rcases h.take?_cases hc with ⟨x, r', hx, ht, -⟩ | ⟨hn, ht⟩
  · rw [tryReceive, ht, hx]
  · rw [tryReceive, ht, List.getElem?_eq_none hn]

/-! ## all that is there -/

/-- What is there at once is what reads hand out one by one. -/
theorem available_of_take? {items : List α} {c : Replay α} (hc : c.Holds items) {r r' : Receiver α} {x : α}
    (h : r.take? c = some (x, r')) : r.available c = x :: r'.available c := by
  rw [take?] at h
  split at h
  · rename_i y rest hb
    cases h
    rw [available, available, hb]
    rfl
  · rename_i hb
    split at h
    · cases h
    · rename_i y rest hl
      cases h
      -- The rest of the ring is what begins behind the item that was taken.
      have hlen := hc.liveFrom r.next
      rw [hl] at hlen
      have hrest : rest = items.drop (max r.next (items.length - c.ringCapacity) + 1) := by
        rw [← List.drop_drop, ← hlen]
        rfl
      have hbound : max r.next (items.length - c.ringCapacity) < items.length := by
        refine Nat.lt_of_not_le fun hle => ?_
        rw [List.drop_eq_nil_of_le hle] at hlen
        cases hlen
      have hnext : c.count - rest.length = max r.next (items.length - c.ringCapacity) + 1 := by
        rw [hc.count, hrest, List.length_drop]
        omega
      have hlive := hc.liveFrom (c.count - rest.length)
      rw [max_eq_left (by omega), hnext, ← hrest] at hlive
      rw [available, available, hb, hl, hnext, hlive]
      rfl

theorem take?_eq_none_iff {c : Replay α} {r : Receiver α} : r.take? c = none ↔ r.available c = [] := by
  rw [take?, available, List.append_eq_nil_iff]
  cases r.backlog with
  | cons x rest => simp
  | nil => cases c.liveFrom r.next <;> simp

/-- A subscriber that finds nothing has passed every item. -/
theorem Stands.caughtUp_of_available {items : List α} {c : Replay α} (hc : c.Holds items)
    (hring : 0 < c.ringCapacity) {attached cursor : Nat} {r : Receiver α} (h : r.Stands items attached cursor)
    (ha : r.available c = []) : r = .caughtUp c := by
  rw [available, List.append_eq_nil_iff, hc.liveFrom, List.drop_eq_nil_iff] at ha
  have hle := h.attached_le
  have hcursor := h.cursor_le
  have hnext : r.next = c.count := by
    rw [hc.count]
    have := h.next
    omega
  obtain ⟨backlog, next⟩ := r
  obtain ⟨rfl, -⟩ := ha
  cases hnext
  rfl

/-- Who is not behind by more than a ring finds every item from its own on. -/
theorem Stands.available_of_close {items : List α} {c : Replay α} (hc : c.Holds items) {attached cursor : Nat}
    {r : Receiver α} (h : r.Stands items attached cursor) (hclose : c.count ≤ r.next + c.ringCapacity) :
    r.available c = items.drop cursor := by
  rw [hc.count] at hclose
  rw [available, h.backlog, hc.liveFrom, max_eq_left (by omega), h.next]
  rcases Nat.lt_or_ge cursor attached with hlt | hge
  · rw [max_eq_left hlt.le]
    have hdrop : items.drop attached = (items.drop cursor).drop (attached - cursor) := by
      rw [List.drop_drop, Nat.add_sub_cancel' hlt.le]
    rw [List.drop_take, hdrop, List.take_append_drop]
  · have hnil : (items.take attached).drop cursor = [] :=
      List.drop_eq_nil_iff.2 (by rw [List.length_take]; omega)
    rw [max_eq_right hge, hnil, List.nil_append]

end Receiver

end Feed

end ProxyKeeper

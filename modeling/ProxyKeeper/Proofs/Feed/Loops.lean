/-
How a read runs: looks at the ring, one after the other, while others go on
using the channel.

A look finds the item of the subscriber's number, or that the ring has lost
it, or that there is none (`Receiver.look`). On a loss the number moves to the
oldest item, and the reader looks again; by then more may have been published,
and that item lost as well. `Reads` is a whole read with whatever happens
between its looks (`Meanwhile`). It takes what a read takes that happens all
at once when the last look is taken (`Reads.receive_eq`), since a number that
has fallen out of the ring stays out of it. A read that nothing comes between
is done after two looks at most (`reads_alone`).

Pauses that a runtime makes so that tasks take turns are left out.
-/
import ProxyKeeper.Proofs.Feed.Channel

namespace ProxyKeeper.Feed

variable {α : Type}

/-! ## looks -/

/-- What a look at the ring comes to. -/
inductive Look (α : Type) where
  | lagged (missed : Nat)
  | told (d : Delivery α)
  deriving Repr

/-- The number of the oldest item in the ring. -/
def Replay.oldest (c : Replay α) : Nat := c.count - c.ring.length

/-- One look of a subscriber at the ring. What was lost is skipped; a later look goes on behind it. -/
def Receiver.look (r : Receiver α) (c : Replay α) : Receiver α × Look α :=
  if r.next < c.oldest then (⟨r.backlog, c.oldest⟩, .lagged (c.oldest - r.next))
  else
    match c.ring[r.next - c.oldest]? with
    | some x => (⟨r.backlog, r.next + 1⟩, .told (.item x))
    | none => (r, .told (if c.isClosed then .closed else .pending))

/-- What becomes of a channel while a reader does not look: items are published, publishers and subscribers
come and go. -/
inductive Meanwhile (c : Replay α) : Replay α → Prop
  | refl : Meanwhile c c
  | publish {c'} (x : α) : Meanwhile c c' → Meanwhile c (c'.publish x)
  | visit {c'} (handles subscribers : Nat) : Meanwhile c c' →
      Meanwhile c { c' with handles := handles, subscribers := subscribers }

/-- The looks of one read of a subscriber whose backlog is empty, from the channel at the first to the channel
at the last. -/
inductive Turns : Replay α → Receiver α → Replay α → Receiver α → Delivery α → Prop
  | last {c r r' d} : r.look c = (r', .told d) → Turns c r c r' d
  | again {c r n r₁ c₁ c' r' d} : r.look c = (r₁, .lagged n) → Meanwhile c c₁ → Turns c₁ r₁ c' r' d →
      Turns c r c' r' d

/-- One read as it runs: from the backlog, and when that is empty from the ring. -/
inductive Reads : Replay α → Receiver α → Replay α → Receiver α → Delivery α → Prop
  | backlog {c r x rest} : r.backlog = x :: rest → Reads c r c ⟨rest, r.next⟩ (.item x)
  | ring {c r c' r' d} : r.backlog = [] → Turns c r c' r' d → Reads c r c' r' d

/-! ## between two looks -/

theorem Replay.Holds.visit {items : List α} {c : Replay α} (h : c.Holds items) (handles subscribers : Nat) :
    Replay.Holds items { c with handles := handles, subscribers := subscribers } where
  history := h.history
  ring := h.ring
  count := h.count

namespace Meanwhile

variable {c c₁ c₂ : Replay α}

theorem trans (h : Meanwhile c c₁) (h' : Meanwhile c₁ c₂) : Meanwhile c c₂ := by
  induction h' with
  | refl => exact h
  | publish x _ ih => exact ih.publish x
  | visit handles subscribers _ ih => exact ih.visit handles subscribers

theorem holds {items : List α} (hc : c.Holds items) (h : Meanwhile c c₁) :
    ∃ more, c₁.Holds (items ++ more) ∧ c₁.ringCapacity = c.ringCapacity := by
  induction h with
  | refl => exact ⟨[], by rwa [List.append_nil], rfl⟩
  | publish x _ ih =>
    obtain ⟨more, hm, hr⟩ := ih
    refine ⟨more ++ [x], ?_, hr⟩
    rw [← List.append_assoc]
    exact hm.publish x
  | visit handles subscribers _ ih =>
    obtain ⟨more, hm, hr⟩ := ih
    exact ⟨more, hm.visit handles subscribers, hr⟩

/-- What has fallen out of the ring stays out of it. -/
theorem oldest_le (h : Meanwhile c c₁) : c.oldest ≤ c₁.oldest := by
  induction h with
  | refl => exact Nat.le_refl _
  | @publish c' x _ ih =>
    have hlen := length_lastN c'.ringCapacity (c'.ring ++ [x])
    rw [List.length_append, List.length_singleton] at hlen
    refine Nat.le_trans ih ?_
    show c'.count - c'.ring.length ≤ c'.count + 1 - (lastN c'.ringCapacity (c'.ring ++ [x])).length
    omega
  | visit _ _ _ ih => exact ih

end Meanwhile

theorem Turns.meanwhile {c c' : Replay α} {r r' : Receiver α} {d : Delivery α} (h : Turns c r c' r' d) :
    Meanwhile c c' := by
  induction h with
  | last _ => exact .refl
  | again _ hm _ ih => exact hm.trans ih

/-! ## one look -/

namespace Receiver

variable {c : Replay α} {r r' : Receiver α}

theorem look_lagged {n : Nat} (h : r.look c = (r', .lagged n)) :
    r.next < c.oldest ∧ r' = ⟨r.backlog, c.oldest⟩ := by
  rw [look] at h
  split at h
  · rename_i hlt
    cases h
    exact ⟨hlt, rfl⟩
  · split at h <;> cases h

/-- A look that is not behind the ring is a read. -/
theorem receive_of_look {items : List α} (hc : c.Holds items) {d : Delivery α} (hb : r.backlog = [])
    (h : r.look c = (r', .told d)) : r.receive c = (r', d) := by
  obtain ⟨backlog, next⟩ := r
  cases hb
  have hring : c.ring.length ≤ c.count := by
    rw [hc.ring, hc.count, length_lastN]
    exact Nat.min_le_right _ _
  rw [look] at h
  split at h
  · cases h
  · rename_i hge
    have hge : c.count - c.ring.length ≤ next := Nat.le_of_not_lt hge
    split at h <;> rename_i hx <;> cases h
    · obtain ⟨hlt, rfl⟩ := List.getElem?_eq_some_iff.1 hx
      have hlt : next - (c.count - c.ring.length) < c.ring.length := hlt
      have hl : c.liveFrom next = _ := List.drop_eq_getElem_cons hlt
      have hn : c.count - (c.ring.drop (next - (c.count - c.ring.length) + 1)).length = next + 1 := by
        rw [List.length_drop]
        omega
      simp only [receive, take?, hl, hn]
      rfl
    · have hl : c.liveFrom next = [] := List.drop_eq_nil_of_le (List.getElem?_eq_none_iff.1 hx)
      simp only [receive, take?, hl]

/-- Who is behind the ring reads its oldest item, however far behind it is. -/
theorem receive_of_behind (hring : c.ring ≠ []) {m n : Nat} (hm : m ≤ c.oldest) (hn : n ≤ c.oldest) :
    (⟨[], m⟩ : Receiver α).receive c = (⟨[], n⟩ : Receiver α).receive c := by
  have hl : ∀ k, k ≤ c.oldest → c.liveFrom k = c.ring := fun k hk => by
    have hzero : k - (c.count - c.ring.length) = 0 := Nat.sub_eq_zero_of_le hk
    rw [Replay.liveFrom, hzero, List.drop_zero]
  simp only [receive, take?, hl m hm, hl n hn]
  cases hr : c.ring with
  | nil => exact absurd hr hring
  | cons x rest => rfl

end Receiver

/-! ## whole reads -/

/-- A ring that has lost an item holds others. -/
theorem Replay.Holds.ring_ne_nil {items : List α} {c : Replay α} (hc : c.Holds items) (hring : 0 < c.ringCapacity)
    {n : Nat} (h : n < c.oldest) : c.ring ≠ [] := by
  intro hnil
  have hlen := length_lastN c.ringCapacity items
  rw [← hc.ring, hnil, List.length_nil] at hlen
  have hcount : c.oldest ≤ c.count := Nat.sub_le _ _
  rw [hc.count] at hcount
  omega

theorem Turns.receive_eq {c c' : Replay α} {r r' : Receiver α} {d : Delivery α} (h : Turns c r c' r' d)
    {items : List α} (hc : c.Holds items) (hring : 0 < c.ringCapacity) (hb : r.backlog = []) :
    r.receive c' = (r', d) := by
  induction h generalizing items with
  | last hl => exact Receiver.receive_of_look hc hb hl
  | @again c r n r₁ c₁ c' r' d hl hm ht ih =>
    obtain ⟨hlt, rfl⟩ := Receiver.look_lagged hl
    obtain ⟨more, hmore, hr⟩ := hm.holds hc
    -- The number was lost at the first look and the oldest one then may be lost by the last: both are behind it.
    have hlate : c.oldest ≤ c'.oldest := (hm.trans ht.meanwhile).oldest_le
    obtain ⟨_, hc', hr'⟩ := (hm.trans ht.meanwhile).holds hc
    have hne : c'.ring ≠ [] := hc'.ring_ne_nil (hr' ▸ hring) (Nat.lt_of_lt_of_le hlt hlate)
    obtain ⟨backlog, next⟩ := r
    cases hb
    rw [← ih hmore (hr ▸ hring) rfl]
    exact Receiver.receive_of_behind hne (Nat.le_trans hlt.le hlate) hlate

/-- A read takes what it would take all at once when it looks for the last time. -/
theorem Reads.receive_eq {c c' : Replay α} {r r' : Receiver α} {d : Delivery α} (h : Reads c r c' r' d)
    {items : List α} (hc : c.Holds items) (hring : 0 < c.ringCapacity) : r.receive c' = (r', d) := by
  cases h with
  | backlog hb => simp only [Receiver.receive, Receiver.take?, hb]
  | ring hb ht => exact ht.receive_eq hc hring hb

theorem turns_alone (c : Replay α) (r : Receiver α) : ∃ r' d, Turns c r c r' d := by
  cases hl : r.look c with
  | mk r₁ l =>
    cases l with
    | told d => exact ⟨r₁, d, .last hl⟩
    | lagged n =>
      obtain ⟨-, rfl⟩ := Receiver.look_lagged hl
      cases hl' : (⟨r.backlog, c.oldest⟩ : Receiver α).look c with
      | mk r₂ l =>
        cases l with
        | told d => exact ⟨r₂, d, .again hl .refl (.last hl')⟩
        | lagged n => exact absurd (Receiver.look_lagged hl').1 (Nat.lt_irrefl _)

/-- A read that nothing comes between is done, and at once. -/
theorem reads_alone {items : List α} {c : Replay α} (hc : c.Holds items) (hring : 0 < c.ringCapacity)
    (r : Receiver α) : Reads c r c (r.receive c).1 (r.receive c).2 := by
  have done : ∃ r' d, Reads c r c r' d := by
    cases hb : r.backlog with
    | cons x rest => exact ⟨_, _, .backlog hb⟩
    | nil =>
      obtain ⟨r', d, ht⟩ := turns_alone c r
      exact ⟨r', d, .ring hb ht⟩
  obtain ⟨r', d, h⟩ := done
  rwa [h.receive_eq hc hring]

end ProxyKeeper.Feed

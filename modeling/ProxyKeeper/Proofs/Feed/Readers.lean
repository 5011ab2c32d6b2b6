/-
A channel that replays, who holds it and who reads it, over whole runs.

The channel is held by handles, each of which may publish, be cloned and be
dropped, and let subscribers in. A subscriber is read in one of three ways:
waiting, without waiting, or as the stream that it was made into (`Form`).
All three hand out the first of what is there for it and leave the rest there
(`Form.read_conserves`), and they say differently only that nothing is there.

Without a handle nobody publishes and nobody comes (`step_of_abandoned`). So
what is there for a subscriber then is all that it will ever have
(`Settled.step`); once it has been handed that, it is told that the channel
is closed, and from then on always.
-/
import Mathlib.Logic.Function.Basic
import ProxyKeeper.Proofs.Feed.Audience
import ProxyKeeper.Proofs.Feed.Loops

namespace ProxyKeeper.Feed

variable {α : Type}

/-! ## readers -/

/-- A subscriber as its owner has it: as it came, or made a stream. -/
inductive Form (α : Type) where
  | plain (r : Receiver α)
  | stream (s : ReceiverStream α)

namespace Form

def receiver : Form α → Receiver α
  | .plain r => r
  | .stream s => s.receiver

def intoStream : Form α → Form α
  | .plain r => .stream ⟨r, false⟩
  | .stream s => .stream s

/-- Whether it is a stream at its end. -/
def Ended : Form α → Prop
  | .plain _ => False
  | .stream s => s.ended = true

/-- The ways to read. -/
inductive Way where
  | receive
  | tryReceive
  | poll

/-- One read: only a stream is polled, and a stream only so. -/
def read (c : Replay α) : Way → Form α → Form α × Option α
  | .receive, .plain r => (.plain (r.receive c).1, (r.receive c).2.item?)
  | .tryReceive, .plain r => (.plain (r.tryReceive c).1, (r.tryReceive c).2)
  | .poll, .stream s => (.stream (s.poll c).1, (s.poll c).2.item?)
  | .poll, form@(.plain _) | .receive, form@(.stream _) | .tryReceive, form@(.stream _) => (form, none)

end Form

/-- A subscriber with what it was handed. -/
structure Reader (α : Type) where
  form : Form α
  received : List α := []

namespace Reader

def receiver (reader : Reader α) : Receiver α := reader.form.receiver

def intoStream (reader : Reader α) : Reader α := { reader with form := reader.form.intoStream }

def read (c : Replay α) (way : Form.Way) (reader : Reader α) : Reader α :=
  ⟨(reader.form.read c way).1, reader.received ++ (reader.form.read c way).2.toList⟩

/-- What a subscriber was handed and what is there for it. -/
def whole (c : Replay α) (reader : Reader α) : List α := reader.received ++ reader.receiver.available c

end Reader

/-- A channel, the handles by which it is held, and its subscribers by name. -/
structure Exchange (α : Type) where
  channel : Replay α
  handles : List String
  reader? : String → Option (Reader α)

namespace Exchange

inductive Act (α : Type) where
  | publish (handle : String) (x : α)
  | clone (handle copy : String)
  | drop (handle : String)
  | subscribe (handle name : String)
  | unsubscribe (name : String)
  | intoStream (name : String)
  | read (way : Form.Way) (name : String)

/-- A new channel, held by one handle. -/
def create (history live : Nat) (handle : String) : Exchange α := ⟨.create history live, [handle], fun _ => none⟩

def update (name : String) (f : Reader α → Reader α) (s : Exchange α) : Exchange α :=
  { s with reader? := Function.update s.reader? name ((s.reader? name).map f) }

/-- One act. Nothing is done by a handle that was dropped, and a name that is taken is not given again. -/
def step (s : Exchange α) : Act α → Exchange α
  | .publish handle x => if handle ∈ s.handles then { s with channel := s.channel.publish x } else s
  | .clone handle copy =>
    if handle ∈ s.handles ∧ copy ∉ s.handles then
      { s with channel := s.channel.clone, handles := copy :: s.handles }
    else s
  | .drop handle =>
    if handle ∈ s.handles then { s with channel := s.channel.drop, handles := s.handles.erase handle } else s
  | .subscribe handle name =>
    if handle ∈ s.handles ∧ (s.reader? name).isNone then
      { s with
        channel := s.channel.subscribe.1
        reader? := Function.update s.reader? name (some ⟨.plain s.channel.subscribe.2, []⟩) }
    else s
  | .unsubscribe name =>
    if (s.reader? name).isSome then
      { s with channel := s.channel.unsubscribe, reader? := Function.update s.reader? name none }
    else s
  | .intoStream name => s.update name Reader.intoStream
  | .read way name => s.update name (Reader.read s.channel way)

def run (acts : List (Act α)) (s : Exchange α) : Exchange α := acts.foldl step s

end Exchange

/-! ## one read -/

namespace Receiver

variable {c : Replay α} {r : Receiver α}

theorem tryReceive_of_empty (h : r.available c = []) : r.tryReceive c = (r, none) := by
  rw [tryReceive, take?_eq_none_iff.2 h]

theorem receive_of_empty (h : r.available c = []) :
    r.receive c = (r, if c.isClosed then .closed else .pending) := by
  rw [receive, take?_eq_none_iff.2 h]

theorem receive_closed_iff : (r.receive c).2 = .closed ↔ c.isClosed = true ∧ r.available c = [] := by
  cases ht : r.take? c with
  | some taken =>
    have hne : r.available c ≠ [] := fun h => by
      rw [take?_eq_none_iff.2 h] at ht
      cases ht
    simp [receive, ht, hne]
  | none =>
    rw [receive_of_empty (take?_eq_none_iff.1 ht)]
    cases c.isClosed <;> simp [take?_eq_none_iff.1 ht]

/-- A read that hands out nothing takes nothing away. -/
theorem receive_fst_of_item?_eq_none (h : (r.receive c).2.item? = none) : (r.receive c).1 = r := by
  cases ht : r.take? c with
  | some taken => simp [receive, ht, Delivery.item?] at h
  | none => simp [receive, ht]

end Receiver

/-- A stream that has not ended asks its subscriber. -/
theorem ReceiverStream.poll_eq (r : Receiver α) (c : Replay α) :
    (⟨r, false⟩ : ReceiverStream α).poll c =
      (⟨(r.receive c).1, (r.receive c).2 matches .closed⟩, (r.receive c).2) := by
  cases h : r.receive c with
  | mk r' d => cases d <;> simp [poll, h]

/-- If something is there, each way to read hands out the first of it and leaves the rest. -/
theorem Receiver.reads_of_item {items : List α} {c : Replay α} (hc : c.Holds items) {r : Receiver α} {x : α}
    {rest : List α} (h : r.available c = x :: rest) :
    ∃ r', r'.available c = rest ∧ r.receive c = (r', .item x) ∧ r.tryReceive c = (r', some x) ∧
      (⟨r, false⟩ : ReceiverStream α).poll c = (⟨r', false⟩, .item x) := by
  cases ht : r.take? c with
  | none =>
    rw [take?_eq_none_iff.1 ht] at h
    cases h
  | some taken =>
    obtain ⟨y, r'⟩ := taken
    rw [available_of_take? hc ht] at h
    cases h
    have hreceive : r.receive c = (r', .item x) := by simp only [receive, ht]
    exact ⟨r', rfl, hreceive, by simp only [tryReceive, ht], by rw [ReceiverStream.poll_eq, hreceive]⟩

namespace Form

variable {c : Replay α}

/-- A read hands out the first of what is there, or nothing and leaves all that is there. -/
theorem read_conserves {items : List α} (hc : c.Holds items) (way : Way) (form : Form α) :
    (form.read c way).2.toList ++ (form.read c way).1.receiver.available c = form.receiver.available c := by
  have handed : ∀ r : Receiver α, (r.tryReceive c).2.toList ++ (r.tryReceive c).1.available c = r.available c := by
    intro r
    cases ht : r.take? c with
    | none => simp [Receiver.tryReceive, ht]
    | some taken =>
      obtain ⟨x, r'⟩ := taken
      simpa [Receiver.tryReceive, ht] using (Receiver.available_of_take? hc ht).symm
  have waited : ∀ r : Receiver α, (r.receive c).2.item?.toList ++ (r.receive c).1.available c = r.available c := by
    intro r
    have h := handed r
    rwa [← Receiver.receive_item?] at h
  cases form with
  | plain r =>
    cases way with
    | receive => exact waited r
    | tryReceive => exact handed r
    | poll => rfl
  | stream s =>
    obtain ⟨r, ended⟩ := s
    cases way with
    | receive | tryReceive => rfl
    | poll =>
      cases ended with
      | true => rfl
      | false =>
        simp only [read, ReceiverStream.poll_eq]
        exact waited r

/-- A stream comes to its end only when nothing is there for it in a channel that is closed. -/
theorem ended_of_read {way : Way} {form : Form α} (h : (form.read c way).1.Ended) :
    form.Ended ∨ c.isClosed = true ∧ form.receiver.available c = [] := by
  cases form with
  | plain r => cases way <;> cases h
  | stream s =>
    obtain ⟨r, ended⟩ := s
    cases way with
    | receive | tryReceive => exact .inl h
    | poll =>
      cases ended with
      | true => exact .inl rfl
      | false =>
        refine .inr (Receiver.receive_closed_iff.1 ?_)
        simp only [read, ReceiverStream.poll_eq, Ended] at h
        cases hd : (r.receive c).2 with
        | closed => exact hd
        | item x => simp [hd] at h
        | pending => simp [hd] at h

end Form

/-! ## the invariant -/

namespace Exchange

/-- The channel is held by its handles, and a stream has come to its end only without them and with nothing left. -/
structure Sound (s : Exchange α) : Prop where
  holds : ∃ items, s.channel.Holds items
  room : 0 < s.channel.ringCapacity
  handles : s.channel.handles = s.handles.length
  ended : ∀ name reader, s.reader? name = some reader → reader.form.Ended →
    s.handles = [] ∧ reader.receiver.available s.channel = []

theorem Sound.isClosed_iff {s : Exchange α} (h : s.Sound) : s.channel.isClosed = true ↔ s.handles = [] := by
  rw [Replay.isClosed, h.handles, beq_iff_eq, List.length_eq_zero_iff]

theorem Sound.create (history live : Nat) (handle : String) : (create history live handle : Exchange α).Sound where
  holds := ⟨[], .create history live⟩
  room := by
    show 0 < ringSize live
    rw [ringSize_eq]
    exact Nat.two_pow_pos _
  handles := rfl
  ended name reader hr := by cases hr

theorem reader_of_update {s : Exchange α} {name x : String} {f : Reader α → Reader α} {reader : Reader α}
    (h : (s.update name f).reader? x = some reader) :
    ∃ before, s.reader? x = some before ∧ (reader = before ∨ reader = f before) := by
  simp only [update, Function.update_apply] at h
  split at h
  · rename_i hx
    obtain ⟨before, hb, rfl⟩ := Option.map_eq_some_iff.1 h
    exact ⟨before, hx ▸ hb, .inr rfl⟩
  · exact ⟨reader, h, .inl rfl⟩

theorem Sound.step {s : Exchange α} (h : s.Sound) (act : Act α) : (s.step act).Sound := by
  obtain ⟨items, hitems⟩ := h.holds
  -- While there is a handle no stream has come to its end.
  have going : ∀ {handle}, handle ∈ s.handles →
      ∀ name reader, s.reader? name = some reader → ¬ reader.form.Ended := fun hm name reader hr he => by
    rw [(h.ended name reader hr he).1] at hm
    cases hm
  cases act with
  | publish handle x =>
    rw [Exchange.step]
    split
    · rename_i hm
      exact ⟨⟨_, hitems.publish x⟩, h.room, h.handles,
        fun name reader hr he => absurd he (going hm name reader hr)⟩
    · exact h
  | clone handle copy =>
    rw [Exchange.step]
    split
    · rename_i hm
      exact ⟨⟨items, hitems.visit _ _⟩, h.room, congrArg (· + 1) h.handles,
        fun name reader hr he => absurd he (going hm.1 name reader hr)⟩
    · exact h
  | drop handle =>
    rw [Exchange.step]
    split
    · rename_i hm
      refine ⟨⟨items, hitems.visit _ _⟩, h.room, ?_,
        fun name reader hr he => absurd he (going hm name reader hr)⟩
      show s.channel.handles - 1 = _
      rw [h.handles, List.length_erase_of_mem hm]
    · exact h
  | subscribe handle name =>
    rw [Exchange.step]
    split
    · rename_i hm
      refine ⟨⟨items, hitems.visit _ _⟩, h.room, h.handles, fun x reader hr he => ?_⟩
      simp only [Function.update_apply] at hr
      split at hr
      · cases hr
        cases he
      · exact absurd he (going hm.1 x reader hr)
    · exact h
  | unsubscribe name =>
    rw [Exchange.step]
    split
    · refine ⟨⟨items, hitems.visit _ _⟩, h.room, h.handles, fun x reader hr he => ?_⟩
      simp only [Function.update_apply] at hr
      split at hr
      · cases hr
      · exact h.ended x reader hr he
    · exact h
  | intoStream name =>
    refine ⟨h.holds, h.room, h.handles, fun x reader hr he => ?_⟩
    obtain ⟨before, hb, rfl | rfl⟩ := reader_of_update hr
    · exact h.ended x _ hb he
    · obtain ⟨form, received⟩ := before
      cases form with
      | plain r => cases he
      | stream st => exact h.ended x _ hb he
  | read way name =>
    refine ⟨h.holds, h.room, h.handles, fun x reader hr he => ?_⟩
    obtain ⟨before, hb, rfl | rfl⟩ := reader_of_update hr
    · exact h.ended x _ hb he
    · have done : s.handles = [] ∧ before.receiver.available s.channel = [] := by
        rcases Form.ended_of_read he with he | ⟨hc, ha⟩
        · exact h.ended x before hb he
        · exact ⟨h.isClosed_iff.1 hc, ha⟩
      have left := Form.read_conserves hitems way before.form
      rw [show before.form.receiver.available s.channel = [] from done.2] at left
      exact ⟨done.1, (List.append_eq_nil_iff.1 left).2⟩

theorem Sound.run {s : Exchange α} (h : s.Sound) (acts : List (Act α)) : (run acts s).Sound := by
  induction acts generalizing s with
  | nil => exact h
  | cons act rest ih => exact ih (h.step act)

/-! ## without handles -/

/-- Whether an act is done by a handle. -/
def Act.byHandle : Act α → Bool
  | .publish .. | .clone .. | .drop _ | .subscribe .. => true
  | .unsubscribe _ | .intoStream _ | .read .. => false

theorem step_of_abandoned {s : Exchange α} (h : s.handles = []) {act : Act α} (ha : act.byHandle = true) :
    s.step act = s := by
  cases act with
  | publish | clone | drop | subscribe => simp [step, h]
  | unsubscribe | intoStream | read => cases ha

/-- All handles are dropped, and the subscriber, if it is still there, has been handed at least this and has
this to be handed in all. -/
structure Settled (name : String) (handed whole : List α) (s : Exchange α) : Prop where
  handles : s.handles = []
  reader : ∀ reader, s.reader? name = some reader → handed <+: reader.received ∧ reader.whole s.channel = whole

theorem Settled.step {name : String} {handed whole : List α} {s : Exchange α} (hs : s.Sound)
    (h : s.Settled name handed whole) (act : Act α) : (s.step act).Settled name handed whole := by
  cases act with
  | publish | clone | drop | subscribe => rwa [step_of_abandoned h.handles rfl]
  | unsubscribe x =>
    rw [Exchange.step]
    split
    · refine ⟨h.handles, fun reader hr => ?_⟩
      simp only [Function.update_apply] at hr
      split at hr
      · cases hr
      · exact h.reader reader hr
    · exact h
  | intoStream x =>
    refine ⟨h.handles, fun reader hr => ?_⟩
    obtain ⟨before, hb, rfl | rfl⟩ := reader_of_update hr
    · exact h.reader _ hb
    · have same : (Reader.intoStream before).receiver = before.receiver := by
        obtain ⟨form, received⟩ := before
        cases form <;> rfl
      have hbefore := h.reader before hb
      rwa [Reader.whole, ← same] at hbefore
  | read way x =>
    refine ⟨h.handles, fun reader hr => ?_⟩
    obtain ⟨before, hb, rfl | rfl⟩ := reader_of_update hr
    · exact h.reader _ hb
    · obtain ⟨hhanded, hwhole⟩ := h.reader before hb
      obtain ⟨items, hitems⟩ := hs.holds
      refine ⟨hhanded.trans (List.prefix_append _ _), ?_⟩
      rw [← hwhole, Reader.whole, Reader.whole, Reader.read, List.append_assoc]
      exact congrArg (before.received ++ ·) (Form.read_conserves hitems way before.form)

theorem Settled.run {name : String} {handed whole : List α} {s : Exchange α} (hs : s.Sound)
    (h : s.Settled name handed whole) (acts : List (Act α)) : (run acts s).Settled name handed whole := by
  induction acts generalizing s with
  | nil => exact h
  | cons act rest ih => exact ih (hs.step act) (h.step hs act)

/-! ## the result -/

variable {s : Exchange α}

/-- If nothing is there, each way to read leaves the subscriber as it is. -/
theorem Sound.reads_of_empty (h : s.Sound) {r : Receiver α} (ha : r.available s.channel = []) :
    r.tryReceive s.channel = (r, none) ∧
      r.receive s.channel = (r, if s.handles = [] then .closed else .pending) ∧
      (⟨r, false⟩ : ReceiverStream α).poll s.channel =
        if s.handles = [] then (⟨r, true⟩, .closed) else (⟨r, false⟩, .pending) := by
  have hreceive : r.receive s.channel = (r, if s.handles = [] then .closed else .pending) := by
    rw [Receiver.receive_of_empty ha]
    simp only [h.isClosed_iff]
  refine ⟨Receiver.tryReceive_of_empty ha, hreceive, ?_⟩
  rw [ReceiverStream.poll_eq, hreceive]
  split <;> rfl

/-- A stream in a run tells what its subscriber tells. -/
theorem Sound.poll_eq (h : s.Sound) {name : String} {reader : Reader α} (hr : s.reader? name = some reader)
    {st : ReceiverStream α} (hst : reader.form = .stream st) :
    (st.poll s.channel).1.receiver = (reader.receiver.receive s.channel).1 ∧
      (st.poll s.channel).2 = (reader.receiver.receive s.channel).2 := by
  have hreceiver : reader.receiver = st.receiver := by rw [Reader.receiver, hst]; rfl
  rw [hreceiver]
  obtain ⟨r, ended⟩ := st
  cases ended with
  | false => simp [ReceiverStream.poll_eq]
  | true =>
    obtain ⟨hh, ha⟩ := h.ended name reader hr (by rw [hst]; rfl)
    rw [hreceiver] at ha
    have hclosed := (h.reads_of_empty ha).2.1
    rw [if_pos hh] at hclosed
    simp [ReceiverStream.poll, hclosed]

/-- When nothing is left, a subscriber is told so for ever. -/
theorem Sound.closed_for_ever (h : s.Sound) {name : String} {reader later : Reader α} (hh : s.handles = [])
    (hl : s.reader? name = some later) (hbegins : reader.received <+: later.received)
    (hall : later.whole s.channel = reader.received) :
    later.received = reader.received ∧ (later.receiver.receive s.channel).2 = .closed ∧
      ∀ st, later.form = .stream st → (st.poll s.channel).2 = .closed := by
  -- What it was handed only grows, and with what is there it is no more than it was.
  have hlength := congrArg List.length hall
  rw [Reader.whole, List.length_append] at hlength
  have hreceived : later.received = reader.received := (hbegins.eq_of_length_le (by omega)).symm
  have hnone : later.receiver.available s.channel = [] :=
    List.eq_nil_of_length_eq_zero (by rw [hreceived] at hlength; omega)
  have hclosed : (later.receiver.receive s.channel).2 = .closed := by
    rw [(h.reads_of_empty hnone).2.1, if_pos hh]
  exact ⟨hreceived, hclosed, fun st hst => (h.poll_eq hl hst).2.trans hclosed⟩

/-- **The three ways to read agree and end cleanly**, whatever the sizes of history and ring are and whatever
happened before in whatever order. If anything is there for a subscriber, from its backlog and then from the
ring, each way hands out the first of it and leaves the rest, in the same state. If nothing is there, each way
leaves the subscriber as it is, and waiting and polling say whether more may come. A stream is a subscriber
that is asked so, at its end too. A read that others come between takes what one at the time of its last look
takes, and none away if it hands out none; one that nothing comes between is done at once. That the channel is
closed is told exactly if every handle was dropped and nothing is left for the subscriber. Once all handles are
dropped a subscriber is handed what was left for it and no more, and when it was told that the channel is
closed it is told nothing else. -/
theorem readers_agree_and_end_cleanly (history live : Nat) (owner : String) (acts : List (Act α)) :
    let s := run acts (create history live owner)
    ∀ name reader, s.reader? name = some reader →
      let r := reader.receiver
      let c := s.channel
      (∀ x rest, r.available c = x :: rest → ∃ r', r'.available c = rest ∧ r.receive c = (r', .item x) ∧
        r.tryReceive c = (r', some x) ∧ (⟨r, false⟩ : ReceiverStream α).poll c = (⟨r', false⟩, .item x)) ∧
      (r.available c = [] →
        r.tryReceive c = (r, none) ∧
        r.receive c = (r, if s.handles = [] then .closed else .pending) ∧
        (⟨r, false⟩ : ReceiverStream α).poll c =
          if s.handles = [] then (⟨r, true⟩, .closed) else (⟨r, false⟩, .pending)) ∧
      (∀ st, reader.form = .stream st →
        (st.poll c).1.receiver = (r.receive c).1 ∧ (st.poll c).2 = (r.receive c).2) ∧
      Reads c r c (r.receive c).1 (r.receive c).2 ∧
      (∀ c' r' d, Reads c r c' r' d →
        r.receive c' = (r', d) ∧ r.tryReceive c' = (r', d.item?) ∧ (d.item? = none → r' = r)) ∧
      ((r.receive c).2 = .closed ↔ s.handles = [] ∧ r.available c = []) ∧
      (s.handles = [] → ∀ more later, (run more s).reader? name = some later →
        let c' := (run more s).channel
        (run more s).handles = [] ∧ reader.received <+: later.received ∧
        later.received ++ later.receiver.available c' = reader.received ++ r.available c ∧
        (r.available c = [] → later.received = reader.received ∧ (later.receiver.receive c').2 = .closed ∧
          ∀ st, later.form = .stream st → (st.poll c').2 = .closed)) := by
  intro s name reader hr r c
  have hs : s.Sound := (Sound.create history live owner).run acts
  obtain ⟨items, hitems⟩ := hs.holds
  refine ⟨fun x rest => Receiver.reads_of_item hitems, hs.reads_of_empty, fun st => hs.poll_eq hr,
    reads_alone hitems hs.room r, fun c' r' d hd => ?_, ?_, fun hh more later hl => ?_⟩
  · have hreceive := hd.receive_eq hitems hs.room
    refine ⟨hreceive, by rw [← Receiver.receive_item?, hreceive], fun hnone => ?_⟩
    have hsame : (r.receive c').1 = r := Receiver.receive_fst_of_item?_eq_none (by rw [hreceive]; exact hnone)
    rwa [hreceive] at hsame
  · rw [Receiver.receive_closed_iff, hs.isClosed_iff]
  · have settled : s.Settled name reader.received (reader.whole c) :=
      ⟨hh, fun other ho => by
        cases hr.symm.trans ho
        exact ⟨List.prefix_rfl, rfl⟩⟩
    have after := settled.run hs more
    obtain ⟨hbegins, hwhole⟩ := after.reader later hl
    refine ⟨after.handles, hbegins, hwhole, fun ha => (hs.run more).closed_for_ever after.handles hl hbegins ?_⟩
    have ha : reader.receiver.available c = [] := ha
    rw [hwhole, Reader.whole, ha, List.append_nil]

/-- A subscriber has taken one of two items of its backlog, then falls behind in a ring of two, and both handles are
dropped. What is left of the backlog is there for it, and then the ring without the item that it missed; once it has
been handed that, as a subscriber and then as a stream, it is told that the channel is closed. -/
theorem readers_of_lagged_subscriber :
    let acts : List (Act Nat) := [.publish "a" 1, .publish "a" 2, .subscribe "a" "s", .read .tryReceive "s",
      .publish "a" 3, .clone "a" "b", .drop "a", .publish "b" 4, .publish "b" 5, .drop "b"]
    let s := run acts (create 2 2 "a")
    let rest : List (Act Nat) := [.read .receive "s", .read .tryReceive "s", .intoStream "s", .read .poll "s"]
    let drained := run rest s
    let r : Receiver Nat := ⟨[2], 2⟩
    s.handles = [] ∧ s.reader? "s" = some ⟨.plain r, [1]⟩ ∧ r.available s.channel = [2, 4, 5] ∧
      (∃ r', r'.available s.channel = [4, 5] ∧ r.receive s.channel = (r', .item 2) ∧
        r.tryReceive s.channel = (r', some 2) ∧
        (⟨r, false⟩ : ReceiverStream Nat).poll s.channel = (⟨r', false⟩, .item 2)) ∧
      (∀ more later, (run more s).reader? "s" = some later →
        later.received ++ later.receiver.available (run more s).channel = [1, 2, 4, 5]) ∧
      drained.reader? "s" = some ⟨.stream ⟨⟨[], 5⟩, false⟩, [1, 2, 4, 5]⟩ ∧
      ∀ more later, (run more drained).reader? "s" = some later → later.received = [1, 2, 4, 5] ∧
        ∀ st, later.form = .stream st → (st.poll (run more drained).channel).2 = .closed := by
  intro acts s rest drained r
  have hhandles : s.handles = [] := by decide
  have hreader : s.reader? "s" = some ⟨.plain r, [1]⟩ := rfl
  have havailable : r.available s.channel = [2, 4, 5] := by decide
  have hdrained : drained.reader? "s" = some ⟨.stream ⟨⟨[], 5⟩, false⟩, [1, 2, 4, 5]⟩ := rfl
  obtain ⟨hthere, -, -, -, -, -, hleft⟩ := readers_agree_and_end_cleanly 2 2 "a" acts "s" _ hreader
  have hrun : run (acts ++ rest) (create 2 2 "a") = drained := List.foldl_append
  have hend := readers_agree_and_end_cleanly 2 2 "a" (acts ++ rest) "s" ⟨.stream ⟨⟨[], 5⟩, false⟩, [1, 2, 4, 5]⟩
  rw [hrun] at hend
  obtain ⟨-, -, -, -, -, -, hend⟩ := hend hdrained
  refine ⟨hhandles, hreader, havailable, hthere 2 [4, 5] havailable, fun more later hlater => ?_, hdrained,
    fun more later hlater => ?_⟩
  · obtain ⟨-, -, hwhole, -⟩ := hleft hhandles more later hlater
    exact hwhole.trans (congrArg ([1] ++ ·) havailable)
  · obtain ⟨-, -, -, hclosed⟩ := hend rfl more later hlater
    obtain ⟨hreceived, -, hpolled⟩ := hclosed rfl
    exact ⟨hreceived, hpolled⟩

end Exchange

end ProxyKeeper.Feed

/-
How an ingestion follows the port, over every schedule of its tasks.

`follower_keeps_one_loop` is what can be relied on whenever values are
published, the publisher goes and the end is asked for: never are there two
loops, a loop comes only after the one before has gone, and at rest there is
one at the address of the latest value and nowhere else. It holds of an
ingestion whose tasks are let run as a whole too, which comes to nothing that
its tasks do not come to.
-/
import ProxyKeeper.Proofs.Ingestion.Progress
import ProxyKeeper.Proofs.Ingestion.Schedule

namespace ProxyKeeper.Ingestion

open Feed

variable {S : Type}

/-- Whether a move leaves an ingestion at its address: the end is not asked for, and what is published asks for no
other address. -/
def TaskMove.Keeps (endpoint : Endpoint) (portOf : S → Option UInt16) (url : Option Url) : TaskMove S → Prop
  | .publish value => addressOf endpoint (portOf value) = url
  | .cancel => False
  | .close | .follow | .run _ | .runOlder .. => True

namespace Tasks

/-- The addresses at which there is a loop that has not ended. -/
def aliveAt (t : Tasks S) : List Url := (t.loops.filter LoopTask.isAlive).map (·.loop.url)

/-- The address for the latest value. -/
def wantedAt (portOf : S → Option UInt16) (t : Tasks S) : Option Url :=
  addressOf t.settings.endpoint (portOf t.source.value)

/-- The loops are the same ones, and the sink was told of none that comes or goes. -/
structure SameLoops (t t' : Tasks S) : Prop where
  address : t'.address = t.address
  older : t'.older = t.older
  turns : t'.sink.turns = t.sink.turns

variable {portOf : S → Option UInt16} {t : Tasks S}

/-! ## one loop -/

theorem Sound.filter_loops (h : t.Sound portOf) :
    t.loops.filter LoopTask.isAlive = t.current.toList.filter LoopTask.isAlive := by
  have holder : t.older.filter LoopTask.isAlive = [] := List.filter_eq_nil_iff.2 fun l hl => by simp [h.older l hl]
  rw [loops, List.filter_append, holder, List.append_nil]

theorem Sound.length_aliveAt (h : t.Sound portOf) : t.aliveAt.length ≤ 1 := by
  rw [aliveAt, List.length_map, h.filter_loops]
  refine Nat.le_trans (List.length_filter_le _ _) ?_
  cases t.current <;> simp

theorem Sound.isAlive_of_nil (h : t.Sound portOf) (hnil : t.aliveAt = []) : t.isAlive = false := by
  rw [aliveAt, List.map_eq_nil_iff, h.filter_loops] at hnil
  rw [isAlive]
  cases hc : t.current with
  | none => rfl
  | some l => simpa [hc] using hnil

theorem Sound.aliveAt_of_not_cancelled (h : t.Sound portOf) (hasked : t.Asked false) (hc : t.cancelled = false) :
    t.aliveAt = t.address.toList := by
  rw [aliveAt, h.filter_loops, address]
  cases hcur : t.current with
  | none => rfl
  | some l =>
    cases halive : l.isAlive with
    | true => simp [halive]
    | false =>
      exfalso
      obtain ha | ha := h.ended l hcur halive
      · exact absurd (ha.symm.trans (hasked l hcur)) (by decide)
      · exact absurd (ha.symm.trans hc) (by decide)

/-! ## at rest -/

/-- At rest the follower has seen the latest value, and its loop is at the address for that. -/
theorem Sound.at_rest (h : t.Sound portOf) (hrest : t.Rests) : t.Asked false ∧ t.address = t.wantedAt portOf := by
  have hp := h.placed
  rw [Placed] at hp
  obtain ⟨hs, hn⟩ | hs := hrest <;> rw [hs] at hp
  · have hseen : ¬ t.source.version ≠ t.watcher.seen := by
      intro hne
      rw [Watch.notice_eq_changed_iff.2 hne] at hn
      cases hn
    exact ⟨hp.1, hp.2.latest (by omega)⟩
  · exact ⟨hp.1, hp.2.latest (hp.2.gone rfl).2⟩

theorem Sound.aliveAt_of_rests (h : t.Sound portOf) (hc : t.cancelled = false) (hrest : t.Rests) :
    t.aliveAt = (t.wantedAt portOf).toList := by
  obtain ⟨hasked, ha⟩ := h.at_rest hrest
  rw [h.aliveAt_of_not_cancelled hasked hc, ha]

/-! ## the same address -/

theorem sameLoops_trans {t' t'' : Tasks S} (h : t.SameLoops t') (h' : t'.SameLoops t'') : t.SameLoops t'' :=
  ⟨h'.address.trans h.address, h'.older.trans h.older, h'.turns.trans h.turns⟩

/-- A look that finds the address of the loop that is there leaves the loop alone. -/
theorem sameLoops_look (isOpen : Bool) (ha : t.address = t.wantedAt portOf) :
    t.SameLoops (t.look portOf isOpen) ∧ (t.look portOf isOpen).stand = .rest isOpen := by
  obtain ⟨-, hl⟩ | ⟨hne, -⟩ | ⟨hne, -⟩ := look_cases portOf isOpen t
  · rw [hl]
    refine ⟨⟨rfl, rfl, ?_⟩, rfl⟩
    obtain hs | ⟨cause, hs⟩ := sink_wanted (portOf t.source.value) { settings := t.settings, sink := t.sink } <;>
      simp only [hs]
    exact Sink.turns_note rfl t.sink
  · exact absurd ha hne
  · exact absurd ha hne

/-- An ingestion that goes on at the address that is wanted of it. -/
structure Steady (portOf : S → Option UInt16) (t : Tasks S) : Prop where
  stand : t.stand = .waiting ∨ t.stand = .holding ∨ ∃ isOpen, t.stand = .looking isOpen
  address : t.address = t.wantedAt portOf
  going : t.cancelled = false

theorem Steady.asked (h : t.Steady portOf) (hsound : t.Sound portOf) : t.Asked false := by
  have hp := hsound.placed
  rw [Placed] at hp
  obtain hs | hs | ⟨isOpen, hs⟩ := h.stand <;> rw [hs] at hp <;> exact hp.1

theorem Steady.follow (h : t.Steady portOf) : (t.follow portOf).Steady portOf ∧ t.SameLoops (t.follow portOf) := by
  have hframe := t.follow_frame portOf
  have hwanted : (t.follow portOf).wantedAt portOf = t.wantedAt portOf := by
    rw [wantedAt, wantedAt, hframe.settings, hframe.source]
  have hstand : ((t.follow portOf).stand = .waiting ∨ (t.follow portOf).stand = .holding ∨
      ∃ isOpen, (t.follow portOf).stand = .looking isOpen) ∧ t.SameLoops (t.follow portOf) := by
    have hgoing := h.going
    rw [Tasks.follow]
    obtain hs | hs | ⟨isOpen, hs⟩ := h.stand <;> simp only [hs, hgoing]
    · cases t.source.notice t.watcher with
      | changed => exact ⟨.inr (.inr ⟨true, rfl⟩), rfl, rfl, rfl⟩
      | closed => exact ⟨.inr (.inr ⟨false, rfl⟩), rfl, rfl, rfl⟩
      | pending => exact ⟨.inl hs, rfl, rfl, rfl⟩
    · exact ⟨.inr (.inl hs), rfl, rfl, rfl⟩
    · obtain ⟨hsame, hrest⟩ := sameLoops_look isOpen h.address
      refine ⟨?_, hsame⟩
      cases isOpen with
      | true => exact .inl hrest
      | false => exact .inr (.inl hrest)
  exact ⟨⟨hstand.1, (hstand.2.address.trans h.address).trans hwanted.symm, hframe.cancelled.trans h.going⟩, hstand.2⟩

theorem Steady.step (h : t.Steady portOf) (hsound : t.Sound portOf) {m : TaskMove S}
    (hm : m.Keeps t.settings.endpoint portOf t.address) :
    (t.step portOf m).Steady portOf ∧ t.SameLoops (t.step portOf m) := by
  cases m with
  | publish value =>
    rw [Tasks.step]
    split
    · exact ⟨⟨h.stand, hm.symm, h.going⟩, rfl, rfl, rfl⟩
    · exact ⟨h, rfl, rfl, rfl⟩
  | close => exact ⟨⟨h.stand, h.address, h.going⟩, rfl, rfl, rfl⟩
  | cancel => exact hm.elim
  | follow => exact h.follow
  | runOlder k input =>
    rw [hsound.step_runOlder]
    exact ⟨h, rfl, rfl, rfl⟩
  | run input =>
    cases hc : t.current with
    | none =>
      rw [Tasks.step, hc]
      exact ⟨h, rfl, rfl, rfl⟩
    | some l =>
      rw [step_run_of_current hc]
      obtain ⟨hurl, hturns⟩ := LoopTask.advance_frame t.settings.backoff t.cancelled input l t.sink
      have haddress : ({ t with
          current := some (l.advance t.settings.backoff t.cancelled input t.sink).1
          sink := (l.advance t.settings.backoff t.cancelled input t.sink).2 } : Tasks S).address = t.address := by
        rw [Tasks.address, Tasks.address, hc]
        exact congrArg some hurl
      exact ⟨⟨h.stand, haddress.trans h.address, h.going⟩, haddress, rfl, hturns⟩

theorem Steady.run (h : t.Steady portOf) (hsound : t.Sound portOf) {moves : List (TaskMove S)}
    (hmoves : ∀ m ∈ moves, m.Keeps t.settings.endpoint portOf t.address) :
    (t.run portOf moves).Steady portOf ∧ t.SameLoops (t.run portOf moves) := by
  induction moves generalizing t with
  | nil => exact ⟨h, rfl, rfl, rfl⟩
  | cons m rest ih =>
    obtain ⟨hsteady, hsame⟩ := h.step hsound (hmoves m (by simp))
    obtain ⟨hlast, hrest⟩ := ih hsteady (hsound.step m) fun m' hm' => by
      rw [settings_step, hsame.address]
      exact hmoves m' (by simp [hm'])
    exact ⟨hlast, sameLoops_trans hsame hrest⟩

/-! ## the end -/

/-- Nothing happens any more but to the source. -/
theorem Sound.step_ended (h : t.Sound portOf) (hs : t.stand = .ended) (m : TaskMove S) :
    (t.step portOf m).stand = .ended ∧ (t.step portOf m).sink = t.sink := by
  cases m with
  | publish value =>
    rw [Tasks.step]
    split <;> exact ⟨hs, rfl⟩
  | close | cancel => exact ⟨hs, rfl⟩
  | follow =>
    have hfollow : t.follow portOf = t := by rw [Tasks.follow, hs]
    change (t.follow portOf).stand = _ ∧ (t.follow portOf).sink = _
    rw [hfollow]
    exact ⟨hs, rfl⟩
  | run input =>
    rw [Tasks.step, (h.of_ended hs).2]
    exact ⟨hs, rfl⟩
  | runOlder k input =>
    rw [h.step_runOlder]
    exact ⟨hs, rfl⟩

theorem Sound.run_ended (h : t.Sound portOf) (hs : t.stand = .ended) (moves : List (TaskMove S)) :
    (t.run portOf moves).stand = .ended ∧ (t.run portOf moves).sink = t.sink := by
  induction moves generalizing t with
  | nil => exact ⟨hs, rfl⟩
  | cons m rest ih =>
    obtain ⟨hstand, hsink⟩ := h.step_ended hs m
    obtain ⟨hlast, hrest⟩ := ih (h.step m) hstand
    exact ⟨hlast, hrest.trans hsink⟩

theorem Sound.none_of_ended (h : t.Sound portOf) (hs : t.stand = .ended) :
    t.aliveAt = [] ∧ t.sink.state.value = .idle := by
  have hnone := (h.of_ended hs).2
  rw [aliveAt, h.filter_loops, hnone]
  exact ⟨rfl, (h.told.of_none hnone).1⟩

/-! ## one writer -/

/-- The state and the records of a sink are as they were. -/
def Unwritten (s s' : Sink) : Prop := s'.state = s.state ∧ s'.events = s.events

theorem unwritten_wanted (port : Option UInt16) (i : Ingestion) : Unwritten i.sink (i.wanted port).2 := by
  obtain hs | ⟨cause, hs⟩ := sink_wanted port i <;> rw [hs] <;> exact ⟨rfl, rfl⟩

/-- The follower writes notes to the sink, and nothing else. -/
theorem Sound.unwritten_follow (h : t.Sound portOf) : Unwritten t.sink (t.follow portOf).sink := by
  rw [Tasks.follow]
  cases hs : t.stand with
  | looking isOpen =>
    have hwanted := unwritten_wanted (portOf t.source.value) { settings := t.settings, sink := t.sink }
    obtain ⟨-, hl⟩ | ⟨-, -, hl⟩ | ⟨-, l, -, hl⟩ := look_cases portOf isOpen t <;> simp only [hl] <;> exact hwanted
  | opening url isOpen =>
    obtain ⟨hc, ⟨port, hport⟩, -⟩ := h.of_opening hs
    cases url with
    | none =>
      simp only [Tasks.openFeed, Sink.markIdle_of_idle (h.told.of_none hc).1]
      exact ⟨rfl, rfl⟩
    | some url =>
      simp only [Tasks.openFeed, connect_of_addressOf hport]
      exact ⟨rfl, rfl⟩
  | closing url isOpen =>
    simp only
    split <;> exact ⟨rfl, rfl⟩
  | leaving =>
    simp only
    cases ha : t.isAlive with
    | true => exact ⟨rfl, rfl⟩
    | false =>
      have hidle := Sink.markIdle_of_idle (h.told.of_not_isAlive ha).1
      change Unwritten t.sink t.sink.markIdle
      rw [hidle]
      exact ⟨rfl, rfl⟩
  | waiting =>
    simp only
    split
    · exact ⟨rfl, rfl⟩
    · split <;> exact ⟨rfl, rfl⟩
  | holding =>
    simp only
    split <;> exact ⟨rfl, rfl⟩
  | ended => exact ⟨rfl, rfl⟩

/-- What is written to the sink is written by the loop that is there and has not ended. -/
theorem Sound.writer (h : t.Sound portOf) (m : TaskMove S) :
    Unwritten t.sink (t.step portOf m).sink ∨
      ∃ input l, m = .run input ∧ t.current = some l ∧ l.isAlive = true := by
  cases m with
  | publish value =>
    left
    rw [Tasks.step]
    split <;> exact ⟨rfl, rfl⟩
  | close | cancel => exact .inl ⟨rfl, rfl⟩
  | follow => exact .inl h.unwritten_follow
  | runOlder k input =>
    rw [h.step_runOlder]
    exact .inl ⟨rfl, rfl⟩
  | run input =>
    cases hc : t.current with
    | none =>
      rw [Tasks.step, hc]
      exact .inl ⟨rfl, rfl⟩
    | some l =>
      cases ha : l.isAlive with
      | true => exact .inr ⟨input, l, rfl, rfl, ha⟩
      | false =>
        left
        rw [step_run_of_current hc, LoopTask.advance_of_ended ha]
        exact ⟨rfl, rfl⟩

/-! ## every schedule -/

/-- How loops follow one another in a journal. -/
structure InTurn (journal : List Note) : Prop where
  /-- A loop is opened only when all before have exited, and the last state published is that there is none. -/
  opens : ∀ before url after, journal = before ++ .opening url :: after →
    opened before = exited before ∧ State.last before = .idle
  /-- Where a loop writes, it is the one opened last, and the others have exited. -/
  writes : ∀ before n after, journal = before ++ n :: after → n.isOfLoop = true → opened before = exited before + 1
  /-- A loop publishes that it is idle before it exits. -/
  exits : ∀ before after, journal = before ++ .loopExit :: after → State.last before = .idle

theorem inTurn_of_tells {s : Sink} {loop : Option Url} (h : s.Tells loop) : InTurn s.journal where
  opens before url after hj := by
    obtain ⟨mid, hmid, hallows⟩ := h.before hj
    obtain ⟨hcount, hlast⟩ := hmid.counts
    rw [hallows.1] at hcount
    exact ⟨hcount, hlast.trans hallows.2⟩
  writes before n after hj hn := by
    obtain ⟨mid, hmid, hallows⟩ := h.before hj
    obtain ⟨hcount, -⟩ := hmid.counts
    have hloop : mid.loop.isSome = true := by
      cases n with
      | opening | closing | unusable => cases hn
      | state | event | skipped | closedCleanly | dropped | failed | waiting | loopExit => exact hallows.1
    rw [hloop] at hcount
    exact hcount
  exits before after hj := by
    obtain ⟨mid, hmid, hallows⟩ := h.before hj
    exact hmid.counts.2.trans hallows.2

/-- What an ingestion can be relied on for at one moment, and from there. -/
structure Reliable (portOf : S → Option UInt16) (settings : IngestSettings) (t : Tasks S) : Prop where
  single : t.aliveAt.length ≤ 1
  /-- At rest there is a loop exactly at the address of the latest value. -/
  placed : t.Rests → t.cancelled = false → t.aliveAt = (addressOf settings.endpoint (portOf t.source.value)).toList
  /-- Without a loop, as when there is no address, the state is idle. -/
  idle : t.aliveAt = [] → t.sink.state.value = .idle
  /-- A look that finds the same address, whatever was published in between, leaves the loop alone. -/
  looks : ∀ isOpen, t.stand = .looking isOpen → t.address = addressOf settings.endpoint (portOf t.source.value) →
    t.SameLoops (t.step portOf .follow)
  /-- So does all that comes after rest, the end of the source with it, as long as the same address is asked for. -/
  stays : t.Rests → t.cancelled = false → ∀ later : List (TaskMove S),
    (∀ m ∈ later, m.Keeps settings.endpoint portOf t.address) →
      t.SameLoops (t.run portOf later) ∧ (t.run portOf later).aliveAt = t.aliveAt
  /-- The journal, which tells the state too, has the loops one after the other. -/
  inTurn : InTurn t.sink.journal ∧ State.last t.sink.journal = t.sink.state.value
  /-- One loop writes states and records, the one that has not ended. -/
  writer : ∀ m, Unwritten t.sink (t.step portOf m).sink ∨
    ∃ input l, m = .run input ∧ t.current = some l ∧ l.isAlive = true
  /-- Nothing comes from a loop that was given up. -/
  older : ∀ k input, t.step portOf (.runOlder k input) = t
  /-- As long as nothing is published the follower comes to rest. -/
  settles : t.cancelled = false → ∀ blocks : List (List (TaskMove S)), (∀ b ∈ blocks, Fair b ∧ ∀ m ∈ b, m.IsStep) →
    22 ≤ blocks.length → (t.run portOf blocks.flatten).Rests
  /-- Once the end was asked for the follower ends, whatever else happens. -/
  ends : t.cancelled = true → ∀ blocks : List (List (TaskMove S)), (∀ b ∈ blocks, Fair b) → 9 ≤ blocks.length →
    (t.run portOf blocks.flatten).stand = .ended
  /-- Then there is no loop, the state is idle, and the sink is left alone for good. -/
  ended : t.stand = .ended → t.aliveAt = [] ∧ t.sink.state.value = .idle ∧
    ∀ later, (t.run portOf later).stand = .ended ∧ (t.run portOf later).sink = t.sink

theorem Sound.reliable (h : t.Sound portOf) : Reliable portOf t.settings t where
  single := h.length_aliveAt
  placed hrest hc := h.aliveAt_of_rests hc hrest
  idle hnil := (h.told.of_not_isAlive (h.isAlive_of_nil hnil)).1
  looks isOpen hs ha := by
    have hfollow : t.step portOf .follow = t.look portOf isOpen := by rw [Tasks.step, Tasks.follow, hs]
    rw [hfollow]
    exact (sameLoops_look isOpen ha).1
  stays hrest hc later hlater := by
    obtain ⟨hasked, ha⟩ := h.at_rest hrest
    have hstand : t.stand = .waiting ∨ t.stand = .holding ∨ ∃ isOpen, t.stand = .looking isOpen := by
      obtain ⟨hs, -⟩ | hs := hrest
      · exact .inl hs
      · exact .inr (.inl hs)
    obtain ⟨hsteady, hsame⟩ := Steady.run ⟨hstand, ha, hc⟩ h hlater
    have hsound := h.run later
    refine ⟨hsame, ?_⟩
    rw [hsound.aliveAt_of_not_cancelled (hsteady.asked hsound) hsteady.going, hsame.address,
      h.aliveAt_of_not_cancelled hasked hc]
  inTurn := by
    obtain ⟨loop, htells⟩ := h.told.tells
    exact ⟨inTurn_of_tells htells, htells.counts.2⟩
  writer := h.writer
  older := h.step_runOlder
  settles hc _ hfair hlen := h.settles hc hfair hlen
  ends hc _ hfair hlen := h.ends hc hfair hlen
  ended hs := ⟨(h.none_of_ended hs).1, (h.none_of_ended hs).2, h.run_ended hs⟩

/-! ## tasks as a whole -/

/-- A task that was let run waits with nothing left to look at, or holds on to the last value. -/
theorem task_settleTask (portOf : S → Option UInt16) (source : Watch S) {i : Ingestion} (h : i.task ≠ .ended) :
    (∃ watcher, (i.settleTask portOf source).task = .waiting watcher ∧ source.notice watcher = .pending) ∨
      (i.settleTask portOf source).task = .holding := by
  have looked : ∀ i : Ingestion, (∃ watcher, (i.followAndWait portOf source).task = .waiting watcher ∧
      source.notice watcher = .pending) ∨ (i.followAndWait portOf source).task = .holding := by
    intro i
    rw [followAndWait]
    cases hl : source.live with
    | true => exact .inl ⟨_, rfl, by rw [Watch.notice_of_seen rfl, hl]; rfl⟩
    | false => exact .inr rfl
  rw [settleTask]
  cases ht : i.task with
  | ready => exact looked i
  | waiting watcher =>
    cases hn : source.notice watcher with
    | changed => simpa only [hn] using looked i
    | pending => exact .inl ⟨watcher, by simpa only [hn] using ht, hn⟩
    | closed => exact .inr (by simp only [hn])
  | holding => exact .inr ht
  | ended => exact absurd ht h

/-- Where the task of an ingestion was let run, its tasks in small steps are at rest. -/
theorem Matches.rests {w : Whole S} (h : t.Matches (w.step portOf .settleTask)) (hw : w.ingestion.task ≠ .ended) :
    t.Rests := by
  have hstand := h.stand
  have hsource : t.source = w.source := h.source
  obtain ⟨watcher, ht, hn⟩ | ht := task_settleTask portOf w.source hw
  · have ht : (w.step portOf .settleTask).ingestion.task = .waiting watcher := ht
    rw [ht] at hstand
    exact .inl ⟨hstand.1, by rw [hsource, hstand.2, hn]⟩
  · have ht : (w.step portOf .settleTask).ingestion.task = .holding := ht
    rw [ht] at hstand
    exact .inr hstand

/-- **An ingestion keeps one loop at most, at the right address**, over every schedule of its tasks, whenever values
are published, the source goes and the end is asked for. And whatever an ingestion comes to whose tasks are let run as
a whole, its tasks come to by such a schedule; where its task was let run before the end, it is at the address of the
latest value. -/
theorem follower_keeps_one_loop (portOf : S → Option UInt16) (settings : IngestSettings) (source : Watch S) :
    (∀ moves, Reliable portOf settings ((create settings source).run portOf moves)) ∧
      ∀ moves : List (WholeMove S), let w := Whole.run portOf moves ⟨source, .create settings⟩
        (∃ small, ((create settings source).run portOf small).Matches w) ∧
          (w.ingestion.task ≠ .ended → (w.step portOf .settleTask).ingestion.address =
            addressOf settings.endpoint (portOf w.source.value)) := by
  have sound : ∀ moves, ((create settings source).run portOf moves).Sound portOf :=
    (Sound.create portOf settings source).run
  refine ⟨fun moves => ?_, fun moves => ⟨exists_schedule portOf settings source moves, fun hw => ?_⟩⟩
  · have hreliable := (sound moves).reliable
    rwa [settings_run] at hreliable
  · obtain ⟨small, hm⟩ := exists_schedule portOf settings source (moves ++ [.settleTask])
    rw [Whole.run, List.foldl_append] at hm
    have hrest := ((sound small).at_rest (hm.rests hw)).2
    rw [hm.address, wantedAt, settings_run, hm.source] at hrest
    exact hrest

/-- A port at which there can be no feed is noted, and nothing is opened. -/
example :
    let t := run (fun port => port) [.follow, .cancel, .follow, .follow] (create {} ⟨some 0, 0, true⟩)
    (t.sink.journal.length, t.loops.length) = (1, 0) := by decide

end Tasks

end ProxyKeeper.Ingestion

/-
What loops write into the journal of a sink when one follows another.

`Standing` is where a journal stands at its end: whether there is a loop that
has not exited, and what state was published last. A note is in order after
some and not after others (`Standing.Allows`): a loop is opened only after
the one before has published that it is idle and has exited, and only a loop
that has not exited publishes states and records. So a journal that is in
order tells which loop wrote what (`Standing.Reached.counts`).

`Sink.Tells` says this of the journal of a sink, and of the state that the
sink is in.
-/
import ProxyKeeper.Feed.Sink
import ProxyKeeper.Proofs.Lists

namespace ProxyKeeper.Feed

/-! ## notes -/

/-- Whether a note is written by a loop. -/
def Note.isOfLoop : Note → Bool
  | .state _ | .event _ | .skipped _ | .closedCleanly | .dropped _ | .failed _ | .waiting .. | .loopExit => true
  | .opening _ | .closing _ | .unusable _ => false

/-- Whether a loop comes or is asked to go. -/
def Note.isTurn : Note → Bool
  | .opening _ | .closing _ => true
  | .state _ | .event _ | .skipped _ | .closedCleanly | .dropped _ | .failed _ | .waiting .. | .loopExit
  | .unusable _ => false

def Note.isOpening : Note → Bool
  | .opening _ => true
  | _ => false

def Note.isExit : Note → Bool
  | .loopExit => true
  | _ => false

/-- How many loops were opened. -/
def opened (journal : List Note) : Nat := journal.countP Note.isOpening

/-- How many loops have exited. -/
def exited (journal : List Note) : Nat := journal.countP Note.isExit

/-- The state after a note. -/
def State.afterNote (s : State) : Note → State
  | .state next => next
  | _ => s

/-- The state that was published last. -/
def State.last (journal : List Note) : State := journal.foldl State.afterNote .idle

/-! ## journals in order -/

/-- Where a journal stands: the address of the loop that has not exited, and the state published last. -/
structure Standing where
  loop : Option Url := none
  state : State := .idle

namespace Standing

/-- Whether a note is in order here. -/
def Allows (st : Standing) : Note → Prop
  | .opening _ => st.loop = none ∧ st.state = .idle
  | .closing _ | .unusable _ => True
  | .state next => st.loop.isSome ∧ st.state ≠ next
  | .event _ | .skipped _ | .closedCleanly | .dropped _ => st.loop.isSome ∧ st.state = .streaming
  | .failed _ => st.loop.isSome ∧ st.state = .connecting
  | .waiting _ attempt => st.loop.isSome ∧ st.state = .backingOff attempt
  | .loopExit => st.loop.isSome ∧ st.state = .idle

/-- Where the journal stands after one more note. -/
def next (st : Standing) : Note → Standing
  | .opening url => { st with loop := some url }
  | .state next => { st with state := next }
  | .loopExit => { st with loop := none }
  | .closing _ | .unusable _ | .event _ | .skipped _ | .closedCleanly | .dropped _ | .failed _ | .waiting .. => st

/-- Journals in order, by where they stand. -/
inductive Reached : List Note → Standing → Prop
  | start : Reached [] {}
  | note {journal st n} : Reached journal st → st.Allows n → Reached (journal ++ [n]) (st.next n)

/-- A journal in order is so before each of its notes, and the note is in order there. -/
theorem Reached.before {journal before after : List Note} {n : Note} {st : Standing} (h : Reached journal st)
    (hj : journal = before ++ n :: after) : ∃ mid, Reached before mid ∧ mid.Allows n := by
  induction h generalizing after with
  | start => simp at hj
  | note h ha ih =>
    rcases eq_or_of_append_singleton hj with ⟨rfl, rfl⟩ | ⟨rest, hr⟩
    · exact ⟨_, h, ha⟩
    · exact ih hr

/-- **A journal in order tells how many loops there are**: one was opened more than have exited if there is one. -/
theorem Reached.counts {journal : List Note} {st : Standing} (h : Reached journal st) :
    opened journal = exited journal + st.loop.isSome.toNat ∧ State.last journal = st.state := by
  induction h with
  | start => exact ⟨rfl, rfl⟩
  | @note journal st n _ ha ih =>
    obtain ⟨hc, hs⟩ := ih
    simp only [opened, exited, State.last, List.countP_append, List.countP_singleton, List.foldl_append,
      List.foldl_cons, List.foldl_nil] at hc hs ⊢
    rw [hs]
    cases n with
    | opening url => simp [Note.isOpening, Note.isExit, next, State.afterNote, hc, ha.1]
    | loopExit =>
      have hl := ha.1
      simp [Note.isOpening, Note.isExit, next, State.afterNote, hc, hl]
    | state | closing | unusable | event | skipped | closedCleanly | dropped | failed | waiting =>
      exact ⟨hc, rfl⟩

end Standing

/-! ## sinks -/

namespace Sink

/-- The journal of a sink is in order and stands at its state, with a loop at this address or none. -/
def Tells (s : Sink) (loop : Option Url) : Prop := Standing.Reached s.journal ⟨loop, s.state.value⟩

theorem Tells.create (history live : Nat) : (create history live).Tells none := .start

@[simp] theorem value_setState (next : State) (s : Sink) : (s.setState next).state.value = next := by
  rw [setState]
  split
  · assumption
  · rfl

variable {s : Sink} {loop : Option Url} {url : Url}

theorem Tells.note (h : s.Tells loop) {n : Note} (ha : Standing.Allows ⟨loop, s.state.value⟩ n)
    (hn : Standing.next ⟨loop, s.state.value⟩ n = ⟨loop, s.state.value⟩) : (s.note n).Tells loop := by
  have := Standing.Reached.note h ha
  rwa [hn] at this

theorem Tells.setState (h : s.Tells (some url)) (next : State) : (s.setState next).Tells (some url) := by
  rw [Sink.setState]
  split
  · exact h
  · exact Standing.Reached.note h ⟨rfl, ‹_›⟩

/-- The comings and goings of loops that a journal tells of. -/
def turns (s : Sink) : List Note := s.journal.filter Note.isTurn

theorem turns_note {n : Note} (hn : n.isTurn = false) (s : Sink) : (s.note n).turns = s.turns := by
  simp [turns, Sink.note, List.filter_append, hn]

@[simp] theorem turns_setState (next : State) (s : Sink) : (s.setState next).turns = s.turns := by
  rw [Sink.setState]
  split
  · rfl
  · exact turns_note (n := .state next) rfl { s with state := s.state.publish next }

/-- Where no loop is and the state is idle, nothing is published by saying so again. -/
theorem markIdle_of_idle (h : s.state.value = .idle) : s.markIdle = s := if_pos h

theorem Tells.opening (h : s.Tells none) (hs : s.state.value = .idle) (url : Url) :
    (s.note (.opening url)).Tells (some url) := Standing.Reached.note h ⟨rfl, hs⟩

theorem Tells.closing (h : s.Tells loop) (url : Url) : (s.note (.closing url)).Tells loop := h.note trivial rfl

theorem Tells.unusable (h : s.Tells loop) (cause : Error) : (s.note (.unusable cause)).Tells loop :=
  h.note trivial rfl

theorem Tells.exit (h : s.Tells (some url)) : (s.markIdle.note .loopExit).Tells none := by
  have hv := value_setState .idle s
  have hnote := Standing.Reached.note (n := .loopExit) (h.setState .idle) ⟨rfl, hv⟩
  exact hnote

theorem Tells.publish (h : s.Tells (some url)) (hs : s.state.value = .streaming) (e : Event) :
    (s.publish e).Tells (some url) :=
  Standing.Reached.note (n := .event e) h ⟨rfl, hs⟩

end Sink

end ProxyKeeper.Feed

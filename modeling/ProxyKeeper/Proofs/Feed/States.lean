/-
The states that a feed publishes over the whole life of its loop, whatever the
peer does and whenever the end is asked for.

A `Point` is a state that knows the number of its attempt, and `Point.Turn`
says which point may follow which, and why. One step of a loop stays at its
point and publishes nothing, or it is a turn and publishes the state that it
comes to (`Sound.step`): so what a life publishes is a path
(`Sound.path_trace`). The number of the attempt is reported, set back and
counted up at three places; what ties it to the path is that it is zero in a
new loop and in one that has lost a session (`Sound`).
-/
import ProxyKeeper.Proofs.Feed.Feeder

namespace ProxyKeeper.Feed

open Ingestion (LoopTask)

/-! ## waits -/

namespace Backoff

theorem factor_pos (k : Nat) : 0 < factor k := by
  rw [factor]
  split
  · exact Nat.two_pow_pos k
  · decide

theorem factor_mono {j k : Nat} (h : j ≤ k) : factor j ≤ factor k := by
  rw [factor, factor]
  split
  · split
    · exact Nat.pow_le_pow_right Nat.two_pos h
    · have hj : 2 ^ j ≤ 2 ^ 31 := Nat.pow_le_pow_right Nat.two_pos (by omega)
      exact Nat.le_trans hj (by decide)
  · exact Nat.le_of_eq (if_neg (by omega)).symm

theorem delay_mono (b : Backoff) {j k : Nat} (h : j ≤ k) : b.delay j ≤ b.delay k := by
  have hf : b.initial * factor j ≤ b.initial * factor k := Nat.mul_le_mul_left _ (factor_mono h)
  simp only [delay]
  omega

theorem delay_le (b : Backoff) (k : Nat) : b.delay k ≤ b.longest := Nat.min_le_right _ _

theorem initial_le_delay {b : Backoff} (h : b.initial ≤ b.longest) (hlongest : b.longest ≤ longestSpan) (k : Nat) :
    b.initial ≤ b.delay k := by
  have hf : b.initial ≤ b.initial * factor k := Nat.le_mul_of_pos_right _ (factor_pos k)
  simp only [delay]
  omega

end Backoff

/-! ## points and turns -/

/-- Where a loop is: a state, with the number of the attempt that is made or has failed. -/
inductive Point where
  | idle
  | connecting (attempt : Nat)
  | streaming
  | backingOff (attempt : Nat)
  deriving DecidableEq

/-- Why a loop goes from one point to the next. -/
inductive Cause where
  | begun
  /-- The handshake succeeded. -/
  | accepted
  /-- The handshake failed. -/
  | refused
  /-- The session ended. -/
  | ended
  /-- The wait is over. -/
  | woken
  | cancelled
  deriving DecidableEq

namespace Point

def state : Point → State
  | .idle => .idle
  | .connecting _ => .connecting
  | .streaming => .streaming
  | .backingOff attempt => .backingOff attempt

/-- Which point follows which. A first attempt and one after a session fail with number 0, the next one with the next
number, up to the largest that there is. -/
inductive Turn : Point → Cause → Point → Prop
  | begun : Turn .idle .begun (.connecting 0)
  | accepted (k : Nat) : Turn (.connecting k) .accepted .streaming
  | refused (k : Nat) : Turn (.connecting k) .refused (.backingOff k)
  | ended : Turn .streaming .ended (.backingOff 0)
  | woken (k : Nat) : Turn (.backingOff k) .woken (.connecting (min (k + 1) (UInt32.size - 1)))
  | cancelled {p : Point} (h : p ≠ .idle) : Turn p .cancelled .idle

/-- Turns that lead from one point to another, each with the point that it comes to. -/
inductive Path : Point → List (Cause × Point) → Point → Prop
  | start (p : Point) : Path p [] p
  | turn {p q r : Point} {c : Cause} {turns : List (Cause × Point)} :
      Turn p c q → Path q turns r → Path p ((c, q) :: turns) r

/-- A turn goes to another state. -/
theorem Turn.state_ne {p q : Point} {c : Cause} (h : Turn p c q) : p.state ≠ q.state := by
  cases h with
  | begun | accepted | refused | ended | woken => simp [state]
  | cancelled hp => cases p <;> simp [state] at hp ⊢

theorem Path.append {p q r : Point} {xs ys : List (Cause × Point)} (h : Path p xs q) (h' : Path q ys r) :
    Path p (xs ++ ys) r := by
  induction h with
  | start => exact h'
  | turn ht _ ih => exact .turn ht (ih h')

end Point

/-- Where a loop is. -/
def Loop.point (l : Loop) : Point :=
  match l.stage with
  | .fresh | .ended => .idle
  | .connecting => .connecting l.attempt
  | .streaming => .streaming
  | .waiting _ => .backingOff l.attempt

theorem Loop.state_point (l : Loop) : l.point.state = l.state := by
  rw [Loop.point, Loop.state]
  cases l.stage <;> rfl

/-! ## what a sink publishes -/

/-- The state that a note tells of. -/
def Note.state? : Note → Option State
  | .state next => some next
  | _ => none

namespace Sink

/-- The states that were published, in their order. -/
def states (s : Sink) : List State := s.journal.filterMap Note.state?

/-- Between two sinks these states were published: to the watchers, each as a change, and in the journal. -/
structure Gains (s s' : Sink) (states : List State) : Prop where
  watched : s'.state = states.foldl (fun w next => w.publish next) s.state
  journal : s'.states = s.states ++ states

variable {s s' s'' : Sink}

theorem Gains.refl (s : Sink) : s.Gains s [] := ⟨rfl, (List.append_nil _).symm⟩

theorem Gains.trans {xs ys : List State} (h : s.Gains s' xs) (h' : s'.Gains s'' ys) : s.Gains s'' (xs ++ ys) where
  watched := by rw [h'.watched, h.watched, List.foldl_append]
  journal := by rw [h'.journal, h.journal, List.append_assoc]

theorem Gains.note {xs : List State} (h : s.Gains s' xs) {n : Note} (hn : n.state? = none) :
    s.Gains (s'.note n) xs where
  watched := h.watched
  journal := by
    rw [← h.journal]
    simp [states, Sink.note, hn]

theorem gains_publish (s : Sink) (e : Event) : s.Gains (s.publish e) [] :=
  have h : s.Gains { s with events := s.events.publish e } [] := ⟨rfl, (List.append_nil _).symm⟩
  h.note (n := .event e) rfl

theorem gains_setState {next : State} (h : s.state.value ≠ next) : s.Gains (s.setState next) [next] where
  watched := by
    rw [setState, if_neg h]
    rfl
  journal := by
    rw [setState, if_neg h]
    simp [states, Sink.note, Note.state?]

end Sink

/-! ## what a loop finds -/

namespace Loop

/-- Why a loop that is not asked to end goes on with what it finds, if it does. -/
def reaction? (l : Loop) : LoopInput → Option Cause
  | .answer _ .accepted => if l.stage = .connecting then some .accepted else none
  | .time now => if l.wake?.any (· ≤ now) then some .woken else none
  | _ => none

variable {l : Loop} {input : LoopInput} {s : Sink}

/-- A frame that is no end leaves the loop as it is. -/
theorem frame_of_lose_eq_none {now : Nat} {f : Frame} (hl : l.lose (.frame now f) s = none) (b : Backoff) :
    (l.frame b now f s).1 = l ∧ s.Gains (l.frame b now f s).2 [] := by
  rw [frame]
  split
  · exact ⟨rfl, .refl s⟩
  · rename_i hstage
    have hend : f.received.end? = none := by
      have hstage : l.stage = .streaming := by simpa using hstage
      simpa [lose, hstage] using hl
    split
    · split
      · exact ⟨rfl, Sink.gains_publish s _⟩
      · exact ⟨rfl, (Sink.Gains.refl s).note rfl⟩
    · rw [hend]
      exact ⟨rfl, .refl s⟩

/-- All that a loop does with what it finds, unless it is about to lose its session. -/
theorem react_cases (b : Backoff) (hlose : l.lose input s = none) :
    (∃ s', l.react b input s = (l, s') ∧ l.reaction? input = none ∧ s.Gains s' []) ∨
      (l.stage = .connecting ∧ l.reaction? input = some .accepted ∧
        l.react b input s = ({ l with stage := .streaming }, s.setState .streaming)) ∨
      ∃ due, l.stage = .waiting due ∧ l.reaction? input = some .woken ∧
        l.react b input s = ({ l with attempt := Backoff.next l.attempt } : Loop).enter s := by
  cases input with
  | answer now hs =>
    rw [react]
    split
    · rename_i hl
      cases hs with
      | undecided => exact .inl ⟨s, rfl, rfl, .refl s⟩
      | accepted => exact .inr (.inl ⟨hl, if_pos hl, rfl⟩)
      | refused => simp [lose, hl] at hlose
    · rename_i hl
      refine .inl ⟨s, rfl, ?_, .refl s⟩
      cases hs with
      | undecided | refused => rfl
      | accepted => exact if_neg hl
  | frame now f =>
    have hf := frame_of_lose_eq_none hlose b
    exact .inl ⟨_, Prod.ext hf.1 rfl, rfl, hf.2⟩
  | time now =>
    obtain ⟨url, stage, attempt⟩ := l
    cases stage with
    | waiting due =>
      by_cases hd : due ≤ now
      · exact .inr (.inr ⟨due, rfl, by simp [reaction?, wake?, hd], if_pos hd⟩)
      · exact .inl ⟨s, if_neg hd, by simp [reaction?, wake?, hd], .refl s⟩
    | fresh | connecting | streaming | ended => exact .inl ⟨s, rfl, rfl, .refl s⟩

end Loop

/-! ## a loop and its sink -/

namespace Feeder

def point (f : Feeder) : Point := f.task.loop.point

/-- Why a loop goes to another point with what it finds, if it does. Where it waits it looks first whether it was asked
to end. -/
def cause? (f : Feeder) (input : LoopInput) : Option Cause :=
  match f.stage with
  | .ended => none
  | .fresh => some .begun
  | .connecting | .streaming | .waiting _ =>
    if f.task.asked then some .cancelled
    else if f.task.lost then some (if f.stage = .connecting then .refused else .ended)
    else f.task.loop.reaction? input

/-- The turn that a move is, if it is one. -/
def turn? (b : Backoff) (f : Feeder) : Move → Option (Cause × Point)
  | .ask => none
  | .go input => (f.cause? input).map fun c => (c, (f.step b (.go input)).point)

/-- The turns of a run. -/
def trace (b : Backoff) : List Move → Feeder → List (Cause × Point)
  | [], _ => []
  | m :: rest, f => (f.turn? b m).toList ++ trace b rest (f.step b m)

/-- What is so of a loop and its sink between any two steps. -/
structure Sound (f : Feeder) : Prop where
  state : f.sink.state.value = f.task.loop.state
  /-- The count begins with 0 in a loop that is new, and in one that has lost a session. -/
  fresh : f.stage = .fresh → f.task.loop.attempt = 0
  lost : f.task.lost = true →
    f.stage = .connecting ∨ f.stage = .streaming ∧ f.task.loop.attempt = 0 ∨ f.stage = .ended
  /-- Only a loop that was asked to has ended. -/
  alive : f.task.asked = false → f.stage ≠ .ended

variable {b : Backoff} {f f' : Feeder} {input : LoopInput}

theorem Sound.start {s : Sink} (hs : s.state.value = .idle) (url : Url) : (start url s).Sound where
  state := hs
  fresh _ := rfl
  lost h := by cases h
  alive _ h := by cases h

/-- A turn publishes the state that it comes to, since that is another one. -/
theorem Sound.gains (h : f.Sound) {c : Cause} {q : Point} (ht : f.point.Turn c q) :
    f.sink.Gains (f.sink.setState q.state) [q.state] := by
  refine Sink.gains_setState ?_
  rw [h.state, ← Loop.state_point]
  exact ht.state_ne

/-- A step that leaves the loop where it is. -/
def Stays (b : Backoff) (f : Feeder) (input : LoopInput) : Prop :=
  ∃ s', f.step b (.go input) = { f with sink := s' } ∧ f.cause? input = none ∧ f.sink.Gains s' []

/-- A step with which the loop loses its session, or fails to begin it. -/
def Loses (b : Backoff) (f : Feeder) (input : LoopInput) : Prop :=
  ∃ r, f.task.loop.lose input f.sink = some r ∧
    f.step b (.go input) = ⟨{ f.task with loop := r.1, lost := true }, r.2⟩ ∧ f.cause? input = none

/-- A step that is a turn. -/
structure Turns (b : Backoff) (f : Feeder) (input : LoopInput) (c : Cause) (f' : Feeder) : Prop where
  step : f.step b (.go input) = f'
  cause : f.cause? input = some c
  turn : f.point.Turn c f'.point
  gains : f.sink.Gains f'.sink [f'.point.state]
  fresh : f'.stage ≠ .fresh
  lost : f'.task.lost = true → f'.stage = .ended
  /-- Where it comes to a wait, that is as long as its number asks for. -/
  waits : ∀ k, f'.point = .backingOff k → f'.stage = .waiting (input.now + b.delay k)

theorem Sound.turns_begun (h : f.Sound) (hs : f.stage = .fresh) (b : Backoff) (input : LoopInput) :
    ∃ f', f.Turns b input .begun f' := by
  have hl : f.task.lost = false := Bool.eq_false_iff.2 fun hl => by simpa [hs] using h.lost hl
  have hpoint : f.point = .idle := by simp only [point, Loop.point, hs]
  have hturn : f.point.Turn .begun (.connecting 0) := hpoint ▸ .begun
  let f' : Feeder := ⟨{ f.task with loop := (f.task.loop.enter f.sink).1 }, (f.task.loop.enter f.sink).2⟩
  have hnext : f'.point = .connecting 0 := congrArg Point.connecting (h.fresh hs)
  exact ⟨f', {
    step := by rw [step, LoopTask.advance_of_fresh hs hl]
    cause := by simp only [cause?, hs]
    turn := hnext ▸ hturn
    gains := hnext ▸ h.gains hturn
    fresh := fun hfresh => by cases hfresh
    lost := fun hlost => by cases hl.symm.trans hlost
    waits := fun k hk => by cases hnext.symm.trans hk }⟩

theorem cause?_of_waits (hs : f.task.loop.Waits) (input : LoopInput) :
    f.cause? input =
      if f.task.asked then some .cancelled
      else if f.task.lost then some (if f.stage = .connecting then .refused else .ended)
      else f.task.loop.reaction? input := by
  obtain hs | hs | ⟨due, hs⟩ := hs <;> simp only [cause?, hs]

theorem Sound.turns_cancelled (h : f.Sound) (hs : f.task.loop.Waits) (ha : f.task.asked = true) (b : Backoff)
    (input : LoopInput) : ∃ f', f.Turns b input .cancelled f' := by
  have hpoint : f.point ≠ .idle := by
    obtain hs | hs | ⟨due, hs⟩ := hs <;> simp [point, Loop.point, hs]
  exact ⟨⟨{ f.task with loop := (f.task.loop.exit f.sink).1 }, (f.task.loop.exit f.sink).2⟩, {
    step := by rw [step, LoopTask.advance_of_leaving hs ha]
    cause := by rw [cause?_of_waits hs, ha, if_pos rfl]
    turn := .cancelled hpoint
    gains := (h.gains (.cancelled hpoint)).note rfl
    fresh := fun hfresh => by cases hfresh
    lost := fun _ => rfl
    waits := fun k hk => by cases hk }⟩

theorem Sound.turns_lost (h : f.Sound) (hs : f.task.loop.Waits) (ha : f.task.asked = false) (hl : f.task.lost = true)
    (b : Backoff) (input : LoopInput) : ∃ c f', f.Turns b input c f' := by
  have hturn : f.point.Turn (if f.stage = .connecting then .refused else .ended) (.backingOff f.task.loop.attempt) := by
    obtain hs | ⟨hs, hk⟩ | hs := h.lost hl
    · have hpoint : f.point = .connecting f.task.loop.attempt := by simp only [point, Loop.point, hs]
      rw [if_pos hs, hpoint]
      exact .refused _
    · have hpoint : f.point = .streaming := by simp only [point, Loop.point, hs]
      rw [if_neg (by simp [hs]), hpoint, hk]
      exact .ended
    · exact absurd hs (h.alive ha)
  let r := f.task.loop.backOff b input.now f.sink
  exact ⟨_, ⟨{ f.task with loop := r.1, lost := false }, r.2⟩, {
    step := by rw [step, LoopTask.advance_of_lost (h.alive ha) ha hl]
    cause := by rw [cause?_of_waits hs, ha, hl]; rfl
    turn := hturn
    gains := (h.gains hturn).note rfl
    fresh := fun hfresh => by cases hfresh
    lost := fun hlost => by cases hlost
    waits := fun k hk => by cases hk; rfl }⟩

theorem Sound.turns_reacting (h : f.Sound) (hs : f.task.loop.Waits) (ha : f.task.asked = false)
    (hl : f.task.lost = false) (hlose : f.task.loop.lose input f.sink = none) (b : Backoff) :
    f.Stays b input ∨ ∃ c f', f.Turns b input c f' := by
  have hcause : f.cause? input = f.task.loop.reaction? input := by
    rw [cause?_of_waits hs, ha, hl]
    rfl
  have hstep := LoopTask.advance_of_going (b := b) hs ha hl hlose
  rcases Loop.react_cases b hlose with ⟨s', hr, hnone, hg⟩ | ⟨hstage, hsome, hr⟩ | ⟨due, hstage, hsome, hr⟩
  · exact .inl ⟨s', by rw [step, hstep, hr], hcause.trans hnone, hg⟩
  · have hpoint : f.point = .connecting f.task.loop.attempt := by simp only [point, Loop.point, hstage]
    have hturn : f.point.Turn .accepted .streaming := hpoint ▸ .accepted _
    exact .inr ⟨_, ⟨{ f.task with loop := { f.task.loop with stage := .streaming } }, f.sink.setState .streaming⟩, {
      step := by rw [step, hstep, hr]
      cause := hcause.trans hsome
      turn := hturn
      gains := h.gains hturn
      fresh := fun hfresh => by cases hfresh
      lost := fun hlost => by cases hl.symm.trans hlost
      waits := fun k hk => by cases hk }⟩
  · have hpoint : f.point = .backingOff f.task.loop.attempt := by simp only [point, Loop.point, hstage]
    have hturn : f.point.Turn .woken (.connecting (Backoff.next f.task.loop.attempt)) := hpoint ▸ .woken _
    let loop : Loop := { f.task.loop with attempt := Backoff.next f.task.loop.attempt, stage := .connecting }
    exact .inr ⟨_, ⟨{ f.task with loop }, f.sink.setState .connecting⟩, {
      step := by rw [step, hstep, hr]; rfl
      cause := hcause.trans hsome
      turn := hturn
      gains := h.gains hturn
      fresh := fun hfresh => by cases hfresh
      lost := fun hlost => by cases hl.symm.trans hlost
      waits := fun k hk => by cases hk }⟩

/-- Losing a session is no turn yet. -/
theorem loses_of_lose (hs : f.task.loop.Waits) (ha : f.task.asked = false) (hl : f.task.lost = false) {r : Loop × Sink}
    (hr : f.task.loop.lose input f.sink = some r) (b : Backoff) : f.Loses b input := by
  refine ⟨r, hr, ?_, ?_⟩
  · rw [step, LoopTask.advance_of_losing hs.ne_ended ha hl hr]
  · have hreaction : f.task.loop.reaction? input = none := by
      obtain ⟨-, ⟨now, rfl⟩, -⟩ | ⟨-, now, frame, cause, rfl, -, -⟩ := Loop.lose_cases hr <;> rfl
    rw [cause?_of_waits hs, ha, hl]
    exact hreaction

/-- All that one step of a loop can be. -/
theorem Sound.step_cases (h : f.Sound) (b : Backoff) (input : LoopInput) :
    f.Stays b input ∨ f.Loses b input ∨ ∃ c f', f.Turns b input c f' := by
  have waiting : f.task.loop.Waits → f.Stays b input ∨ f.Loses b input ∨ ∃ c f', f.Turns b input c f' := by
    intro hs
    cases ha : f.task.asked with
    | true => exact .inr (.inr ⟨_, h.turns_cancelled hs ha b input⟩)
    | false =>
      cases hl : f.task.lost with
      | true => exact .inr (.inr (h.turns_lost hs ha hl b input))
      | false =>
        cases hlose : f.task.loop.lose input f.sink with
        | none => exact (h.turns_reacting hs ha hl hlose b).imp_right .inr
        | some r => exact .inr (.inl (loses_of_lose hs ha hl hlose b))
  cases hs : f.stage with
  | ended =>
    refine .inl ⟨f.sink, ?_, by simp only [cause?, hs], .refl _⟩
    rw [step_of_ended hs]
  | fresh => exact .inr (.inr ⟨_, h.turns_begun hs b input⟩)
  | connecting => exact waiting (.inl hs)
  | streaming => exact waiting (.inr (.inl hs))
  | waiting due => exact waiting (.inr (.inr ⟨due, hs⟩))

/-! ## every step -/

/-- A step that is no turn. -/
structure Quiet (b : Backoff) (f : Feeder) (input : LoopInput) : Prop where
  turn? : f.turn? b (.go input) = none
  point : (f.step b (.go input)).point = f.point
  gains : f.sink.Gains (f.step b (.go input)).sink []

theorem Stays.quiet (h : f.Stays b input) : f.Quiet b input := by
  obtain ⟨s', hstep, hcause, hg⟩ := h
  refine ⟨by rw [Feeder.turn?, hcause]; rfl, ?_, ?_⟩
  · rw [hstep]
    rfl
  · rw [hstep]
    exact hg

theorem Loses.quiet (h : f.Loses b input) : f.Quiet b input := by
  obtain ⟨r, hr, hstep, hcause⟩ := h
  refine ⟨by rw [Feeder.turn?, hcause]; rfl, ?_, ?_⟩ <;> rw [hstep] <;>
    obtain ⟨-, -, rfl⟩ | ⟨hs, now, frame, cause, -, -, rfl⟩ := Loop.lose_cases hr
  · rfl
  · simp only [Feeder.point, Loop.point, hs]
  · exact (Sink.Gains.refl _).note rfl
  · refine (Sink.Gains.refl _).note ?_
    cases cause.isNormalClose <;> rfl

theorem Quiet.moved (h : f.Quiet b input) :
    Point.Path f.point (f.turn? b (.go input)).toList (f.step b (.go input)).point ∧
      f.sink.Gains (f.step b (.go input)).sink ((f.turn? b (.go input)).toList.map (·.2.state)) := by
  rw [h.turn?, h.point]
  exact ⟨.start _, h.gains⟩

theorem Turns.turn?_eq {c : Cause} (h : f.Turns b input c f') : f.turn? b (.go input) = some (c, f'.point) := by
  rw [turn?, h.cause, h.step]
  rfl

/-- One move publishes the state of the turn that it is, if it is one. -/
theorem Sound.moved (h : f.Sound) (b : Backoff) (m : Move) :
    Point.Path f.point (f.turn? b m).toList (f.step b m).point ∧
      f.sink.Gains (f.step b m).sink ((f.turn? b m).toList.map (·.2.state)) := by
  cases m with
  | ask => exact ⟨.start _, .refl _⟩
  | go input =>
    obtain hstay | hlose | ⟨c, f', ht⟩ := h.step_cases b input
    · exact hstay.quiet.moved
    · exact hlose.quiet.moved
    · rw [ht.turn?_eq, ht.step]
      exact ⟨.turn ht.turn (.start _), ht.gains⟩

theorem Sound.step (h : f.Sound) (b : Backoff) (m : Move) : (f.step b m).Sound := by
  cases m with
  | ask => exact ⟨h.state, h.fresh, h.lost, fun ha => by cases ha⟩
  | go input =>
    have halive : (f.step b (.go input)).task.asked = false → (f.step b (.go input)).stage ≠ .ended := fun ha => by
      have hasked : f.task.asked = false := (LoopTask.asked_advance b false input f.task f.sink).symm.trans ha
      have hl : f.task.isAlive = true := isAlive_iff.2 (h.alive hasked)
      have hflags : (f.task.asked || false) = false := by rw [hasked]; rfl
      exact isAlive_iff.1 (LoopTask.isAlive_advance hl hflags b input f.sink)
    obtain ⟨s', hstep, -, hg⟩ | ⟨r, hr, hstep, -⟩ | ⟨c, f', ht⟩ := h.step_cases b input
    · rw [hstep] at halive ⊢
      exact ⟨hg.watched ▸ h.state, h.fresh, h.lost, halive⟩
    · rw [hstep] at halive ⊢
      obtain ⟨hs, -, rfl⟩ | ⟨hs, now, frame, cause, -, -, rfl⟩ := Loop.lose_cases hr
      · exact ⟨h.state, h.fresh, fun _ => .inl hs, halive⟩
      · refine ⟨?_, fun hf => ?_, fun _ => .inr (.inl ⟨hs, rfl⟩), halive⟩
        · have hstate := h.state
          simp only [Loop.state, hs] at hstate ⊢
          exact hstate
        · cases hs.symm.trans hf
    · rw [ht.step] at halive ⊢
      refine ⟨?_, fun hf => absurd hf ht.fresh, fun hl => .inr (.inr (ht.lost hl)), halive⟩
      rw [ht.gains.watched, ← Loop.state_point]
      rfl

/-! ## every run -/

theorem Sound.run (h : f.Sound) (b : Backoff) (moves : List Move) : (run b moves f).Sound :=
  List.foldlRecOn _ _ h fun _ h m _ => h.step b m

/-- **What a life publishes is a path**: the states of its turns, one after the other. -/
theorem Sound.path_trace (h : f.Sound) (b : Backoff) (moves : List Move) :
    Point.Path f.point (trace b moves f) (Feeder.run b moves f).point ∧
      f.sink.Gains (Feeder.run b moves f).sink ((trace b moves f).map (·.2.state)) := by
  induction moves generalizing f with
  | nil => exact ⟨.start _, .refl _⟩
  | cons m rest ih =>
    obtain ⟨hpath, hg⟩ := h.moved b m
    obtain ⟨hrest, hgrest⟩ := ih (h.step b m)
    rw [trace, List.map_append]
    exact ⟨hpath.append hrest, hg.trans hgrest⟩

/-! ## lives -/

/-- What is so of a life between any two of its steps, with the turns that it has taken. -/
structure Orderly (b : Backoff) (s : Sink) (f : Feeder) (turns : List (Cause × Point)) : Prop where
  /-- The turns are a path from the beginning to where the loop is, and their states are what was published. -/
  path : Point.Path .idle turns f.point
  published : s.Gains f.sink (turns.map (·.2.state))
  state : f.sink.state.value = f.point.state
  /-- It is the peer that fails a handshake or ends a session. -/
  loses : f.task.loop.Waits → f.task.asked = false → f.task.lost = false → ∀ input,
    (f.step b (.go input)).task.lost = true ↔
      (f.stage = .connecting ∧ ∃ now, input = .answer now .refused) ∨
        f.stage = .streaming ∧ ∃ now frame, input = .frame now frame ∧ frame.received.end?.isSome
  /-- Backing off is a wait for the time that goes with the number, and nothing but that time or the end ends it. -/
  waits : ∀ input c k, f.turn? b (.go input) = some (c, .backingOff k) →
    (f.step b (.go input)).stage = .waiting (input.now + b.delay k)
  wakes : ∀ due, f.stage = .waiting due → f.task.asked = false → ∀ input,
    (f.turn? b (.go input)).isSome ↔ ∃ now, input = .time now ∧ due ≤ now
  /-- Only a loop that was asked to ends; it does so with its second step, and leaves the state idle for good. -/
  alive : f.task.asked = false → f.stage ≠ .ended
  ends : f.task.asked = true → ∀ later, 2 ≤ later.countP Move.isGo → (Feeder.run b later f).stage = .ended
  ended : f.stage = .ended → f.sink.state.value = .idle ∧ ∀ later, (Feeder.run b later f).sink = f.sink

theorem Sound.waits (h : f.Sound) (b : Backoff) (input : LoopInput) (c : Cause) (k : Nat)
    (hturn : f.turn? b (.go input) = some (c, .backingOff k)) :
    (f.step b (.go input)).stage = .waiting (input.now + b.delay k) := by
  obtain hstay | hlose | ⟨c, f', ht⟩ := h.step_cases b input
  · cases hstay.quiet.turn?.symm.trans hturn
  · cases hlose.quiet.turn?.symm.trans hturn
  · have hpoint := ht.turn?_eq.symm.trans hturn
    rw [ht.step]
    exact ht.waits k (Prod.ext_iff.1 (Option.some.inj hpoint)).2

theorem Sound.wakes (h : f.Sound) (b : Backoff) (due : Nat) (hs : f.stage = .waiting due) (ha : f.task.asked = false)
    (input : LoopInput) : (f.turn? b (.go input)).isSome ↔ ∃ now, input = .time now ∧ due ≤ now := by
  have hl : f.task.lost = false := Bool.eq_false_iff.2 fun hl => by simpa [hs] using h.lost hl
  have hwake : f.task.loop.wake? = some due := by
    simp only [Loop.wake?, hs]
  have hconnecting : f.task.loop.stage ≠ .connecting := by
    simp [hs]
  rw [turn?, Option.isSome_map, cause?_of_waits (.inr (.inr ⟨due, hs⟩)), ha, hl]
  cases input with
  | answer now hs => cases hs <;> simp [Loop.reaction?, hconnecting]
  | frame now frame => simp [Loop.reaction?]
  | time now => by_cases hd : due ≤ now <;> simp [Loop.reaction?, hwake, hd]

theorem Sound.orderly {s : Sink} {turns : List (Cause × Point)} (h : f.Sound) (b : Backoff)
    (hpath : Point.Path .idle turns f.point) (hg : s.Gains f.sink (turns.map (·.2.state))) : f.Orderly b s turns where
  path := hpath
  published := hg
  state := h.state.trans (Loop.state_point _).symm
  loses hs ha hl input := lost_step_iff hs ha hl b input
  waits := h.waits b
  wakes := h.wakes b
  alive := h.alive
  ends ha _ hl := ends_of_asked ha b hl
  ended hs := by
    refine ⟨h.state.trans ?_, fun later => (run_of_ended hs b later).2⟩
    simp only [Loop.state, hs]

/-- **What a feed publishes is a path of its states**, whatever its peer does in whatever order, and whenever its end is
asked for: each turn has its cause, an attempt fails with the number that its way there gives it, only the end that was
asked for ends the life, and the last state is idle. The waits lie between the first and the longest one and never get
shorter with the number. Whatever a loop comes to that is let run as a whole, it comes to by such a life. -/
theorem states_form_path {b : Backoff} (hb : b.initial ≤ b.longest) (hspan : b.longest ≤ Backoff.longestSpan) {s : Sink}
    (hs : s.state.value = .idle) (url : Url) :
    (∀ moves, let f := run b moves (start url s)
      f.Orderly b s (trace b moves (start url s)) ∧ (f.task.asked = true ↔ .ask ∈ moves)) ∧
      (∀ k, b.initial ≤ b.delay k ∧ b.delay k ≤ b.longest ∧ ∀ j ≤ k, b.delay j ≤ b.delay k) ∧
      ∀ whole : List Whole, ∃ moves, (run b moves (start url s)).Rests (whole.foldl (Whole.run b) ({ url }, s)) := by
  have hstart : (start url s).Sound := .start hs url
  refine ⟨fun moves => ⟨?_, ?_⟩, fun k => ⟨?_, b.delay_le k, fun j hj => b.delay_mono hj⟩, fun whole => ?_⟩
  · obtain ⟨hpath, hg⟩ := hstart.path_trace b moves
    exact (hstart.run b moves).orderly b hpath hg
  · rw [asked_run]
    exact or_iff_right fun h => by cases h
  · exact Backoff.initial_le_delay hb hspan k
  · have hrests : (start url s).Rests ({ url }, s) := ⟨rfl, rfl, fun _ => rfl⟩
    exact hrests.exists_run b whole

/-- Two failed handshakes, a session in which only a ping comes, and the end in the wait that follows. -/
theorem states_of_four_attempts :
    let b : Backoff := ⟨100, 150⟩
    let s := Sink.create 8 8
    let f := start ⟨"ws", "", "", some (.domain "relay"), some 3010, .segments ["events"], none, none⟩ s
    let moves : List Move :=
      [.go (.time 0), .go (.answer 5 .refused), .go (.time 5), .go (.time 104), .go (.time 105),
        .go (.answer 106 .refused), .go (.time 107), .go (.time 300), .go (.answer 301 .accepted),
        .go (.frame 302 .other), .go (.frame 303 (.close none)), .go (.time 304), .ask, .go (.time 404)]
    (b.initial ≤ b.longest ∧ b.longest ≤ Backoff.longestSpan ∧ s.state.value = .idle) ∧
      trace b moves f =
        [(.begun, .connecting 0), (.refused, .backingOff 0), (.woken, .connecting 1), (.refused, .backingOff 1),
          (.woken, .connecting 2), (.accepted, .streaming), (.ended, .backingOff 0), (.cancelled, .idle)] ∧
      (run b moves f).Orderly b s (trace b moves f) := by
  refine ⟨⟨by decide, by decide, rfl⟩, by decide, ?_⟩
  exact ((states_form_path (b := ⟨100, 150⟩) (s := Sink.create 8 8) (by decide) (by decide) rfl _).1 _).1

end Feeder

end ProxyKeeper.Feed

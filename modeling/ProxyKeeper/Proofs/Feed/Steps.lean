/-
The loop of a feed in small steps: it makes one step at a time, and between
any two of them its end may be asked for. It sees that where it waits; a loop
that is new makes its first attempt before that. One that loses its session
notes so first, and looks before it waits for another (`Loop.lose`): that is
a step of its own where somebody else may come in between.

Whatever a loop does, its sink tells of it: the state is the one of its
stage, and the journal is in order (`Loop.Told.advance`, `Loop.Told.lose`).
Letting a loop run, handing it frames and cancelling it are steps of it
(`settle_eq_advances`, `frames_eq_advances`, `cancel_eq_advances`).
-/
import ProxyKeeper.Proofs.Feed.Conduct
import ProxyKeeper.Proofs.Observers

namespace ProxyKeeper.Feed

/-! ## steps -/

/-- What a loop may find when it goes on. -/
inductive LoopInput where
  | answer (now : Nat) (h : Handshake)
  | frame (now : Nat) (f : Frame)
  | time (now : Nat)

def LoopInput.now : LoopInput → Nat
  | .answer now _ | .frame now _ | .time now => now

namespace Loop

/-- The state that a loop has published last. -/
def state (l : Loop) : State :=
  match l.stage with
  | .fresh | .ended => .idle
  | .connecting => .connecting
  | .streaming => .streaming
  | .waiting _ => .backingOff l.attempt

/-- The address of a loop that has not exited. -/
def address? (l : Loop) : Option Url := if l.stage = .ended then none else some l.url

/-- The loop exits. -/
def exit (l : Loop) (s : Sink) : Loop × Sink := ({ l with stage := .ended }, s.markIdle.note .loopExit)

/-- What a loop does with what it finds, if that is what it waits for. -/
def react (b : Backoff) (input : LoopInput) (l : Loop) (s : Sink) : Loop × Sink :=
  match input with
  | .answer now h => if l.stage = .connecting then l.answer b now h s else (l, s)
  | .frame now f => l.frame b now f s
  | .time now => l.wake now s

/-- One step of a loop. Where it waits it looks first whether it was asked to end. -/
def advance (b : Backoff) (asked : Bool) (input : LoopInput) (l : Loop) (s : Sink) : Loop × Sink :=
  match l.stage with
  | .ended => (l, s)
  | .fresh => l.enter s
  | .connecting | .streaming | .waiting _ => if asked then l.exit s else l.react b input s

/-- What a loop finds may be the end of its attempt or of its session. It notes that, and has to look yet whether to go
on. -/
def lose (input : LoopInput) (l : Loop) (s : Sink) : Option (Loop × Sink) :=
  match input with
  | .answer _ .refused => if l.stage = .connecting then some (l, s.note (.failed l.attempt)) else none
  | .frame _ f =>
    if l.stage = .streaming then
      f.received.end?.map fun cause =>
        ({ l with attempt := 0 }, s.note (if cause.isNormalClose then .closedCleanly else .dropped cause))
    else none
  | .answer .. | .time _ => none

/-- A sink tells of a loop: of its state, and that it has not exited or has. -/
structure Told (l : Loop) (s : Sink) : Prop where
  state : s.state.value = l.state
  journal : s.Tells l.address?

variable {l : Loop} {s : Sink}

/-- What its owner notes is no word of the loop. -/
theorem Told.note (h : l.Told s) {n : Note} (hn : n.isOfLoop = false) (hopening : n.isOpening = false) :
    l.Told (s.note n) := by
  refine ⟨h.state, ?_⟩
  cases n with
  | closing url => exact h.journal.closing url
  | unusable cause => exact h.journal.unusable cause
  | opening url => cases hopening
  | state | event | skipped | closedCleanly | dropped | failed | waiting | loopExit => cases hn

theorem Told.journal_of (h : l.Told s) (hl : l.stage ≠ .ended) : s.Tells (some l.url) := by
  have := h.journal
  rwa [address?, if_neg hl] at this

theorem told_of (hs : s.state.value = l.state) (hl : l.stage ≠ .ended) (hj : s.Tells (some l.url)) : l.Told s :=
  ⟨hs, by rwa [address?, if_neg hl]⟩

theorem Told.enter (h : s.Tells (some l.url)) : (l.enter s).1.Told (l.enter s).2 :=
  told_of (Sink.value_setState _ _) (by simp [Loop.enter]) (h.setState .connecting)

theorem Told.exit (h : s.Tells (some l.url)) : (l.exit s).1.Told (l.exit s).2 where
  state := Sink.value_setState _ _
  journal := h.exit

theorem Told.backOff (h : s.Tells (some l.url)) (b : Backoff) (now : Nat) :
    (l.backOff b now s).1.Told (l.backOff b now s).2 := by
  have hv := Sink.value_setState (.backingOff l.attempt) s
  have hstate : (s.setState (.backingOff l.attempt)).Tells (some l.url) := h.setState _
  exact told_of hv (by simp [Loop.backOff]) (hstate.note ⟨rfl, hv⟩ rfl)

theorem Told.answer (h : l.Told s) (hl : l.stage = .connecting) (b : Backoff) (now : Nat) (hs : Handshake) :
    (l.answer b now hs s).1.Told (l.answer b now hs s).2 := by
  have hj := h.journal_of (by simp [hl])
  have hv : s.state.value = .connecting := by rw [h.state, Loop.state, hl]
  cases hs with
  | undecided => exact h
  | accepted => exact told_of (Sink.value_setState _ _) (by simp [Loop.answer]) (hj.setState .streaming)
  | refused => exact Told.backOff (hj.note (n := .failed l.attempt) ⟨rfl, hv⟩ rfl) b now

theorem Told.frame (h : l.Told s) (b : Backoff) (now : Nat) (f : Frame) :
    (l.frame b now f s).1.Told (l.frame b now f s).2 := by
  rw [Loop.frame]
  split
  · exact h
  · rename_i hl
    have hl : l.stage = .streaming := by simpa using hl
    have hj := h.journal_of (by simp [hl])
    have hv : s.state.value = .streaming := by rw [h.state, Loop.state, hl]
    split
    · split
      · exact told_of (hv.trans (by simp [Loop.state, hl])) (by simp [hl]) (hj.publish hv _)
      · exact told_of (hv.trans (by simp [Loop.state, hl])) (by simp [hl]) (hj.note ⟨rfl, hv⟩ rfl)
    · split
      · exact h
      · rename_i cause _
        have hend : (s.note (if cause.isNormalClose then .closedCleanly else .dropped cause)).Tells (some l.url) := by
          cases cause.isNormalClose <;> exact hj.note ⟨rfl, hv⟩ rfl
        exact Told.backOff (l := { l with attempt := 0 }) hend b now

theorem Told.wake (h : l.Told s) (now : Nat) : (l.wake now s).1.Told (l.wake now s).2 := by
  rw [Loop.wake]
  split
  · rename_i hl
    split
    · exact Told.enter (l := { l with attempt := _ }) (h.journal_of (by simp [hl]))
    · exact h
  · exact h

theorem Told.react (h : l.Told s) (b : Backoff) (input : LoopInput) :
    (l.react b input s).1.Told (l.react b input s).2 := by
  cases input with
  | answer now hs =>
    rw [Loop.react]
    split
    · exact h.answer ‹_› b now hs
    · exact h
  | frame now f => exact h.frame b now f
  | time now => exact h.wake now

/-- **Whatever a loop does, its sink tells of it.** -/
theorem Told.advance (h : l.Told s) (b : Backoff) (asked : Bool) (input : LoopInput) :
    (l.advance b asked input s).1.Told (l.advance b asked input s).2 := by
  simp only [Loop.advance]
  cases hl : l.stage with
  | ended => exact h
  | fresh => exact .enter (h.journal_of (by simp [hl]))
  | connecting | streaming | waiting =>
    cases asked with
    | true => exact .exit (h.journal_of (by simp [hl]))
    | false => exact h.react b input

/-! ## losing a session -/

/-- All that it is to lose an attempt or a session. -/
theorem lose_cases {input : LoopInput} {r : Loop × Sink} (h : l.lose input s = some r) :
    (l.stage = .connecting ∧ (∃ now, input = .answer now .refused) ∧ r = (l, s.note (.failed l.attempt))) ∨
      (l.stage = .streaming ∧ ∃ now f cause, input = .frame now f ∧ f.received.end? = some cause ∧
        r = ({ l with attempt := 0 }, s.note (if cause.isNormalClose then .closedCleanly else .dropped cause))) := by
  unfold lose at h
  split at h
  · split at h
    · cases h
      exact .inl ⟨‹_›, ⟨_, rfl⟩, rfl⟩
    · cases h
  · split at h
    · obtain ⟨cause, hcause, rfl⟩ := Option.map_eq_some_iff.1 h
      exact .inr ⟨‹_›, _, _, cause, rfl, hcause, rfl⟩
    · cases h
  · cases h
  · cases h

/-- One that is not asked to end goes on to wait. -/
theorem advance_of_lose {input : LoopInput} {r : Loop × Sink} (h : l.lose input s = some r) (b : Backoff) :
    l.advance b false input s = r.1.backOff b input.now r.2 := by
  obtain ⟨hl, ⟨now, rfl⟩, rfl⟩ | ⟨hl, now, f, cause, rfl, hcause, rfl⟩ := lose_cases h
  · simp [advance, react, hl, Loop.answer, LoopInput.now]
  · have htext : ∀ body, f.received ≠ .text body := by
      intro body hf
      rw [hf] at hcause
      cases hcause
    simp only [advance, react, hl, Loop.frame]
    cases hf : f.received with
    | text body => exact absurd hf (htext body)
    | other | close | broken =>
      rw [hf] at hcause
      simp [hcause, LoopInput.now]

theorem Told.lose (h : l.Told s) {input : LoopInput} {r : Loop × Sink} (hr : l.lose input s = some r) :
    r.1.Told r.2 := by
  obtain ⟨hl, -, rfl⟩ | ⟨hl, now, f, cause, -, -, rfl⟩ := lose_cases hr
  all_goals
    have hj := h.journal_of (by simp [hl])
    have hv := h.state
    simp only [Loop.state, hl] at hv
  · exact told_of (by simp [Loop.state, hl, Sink.note, hv]) (by simp [hl]) (hj.note ⟨rfl, hv⟩ rfl)
  · refine told_of (by simp [Loop.state, hl, Sink.note, hv]) (by simp [hl]) ?_
    cases cause.isNormalClose <;> exact hj.note ⟨rfl, hv⟩ rfl

theorem lose_frame {input : LoopInput} {r : Loop × Sink} (h : l.lose input s = some r) :
    r.1.url = l.url ∧ r.1.stage = l.stage ∧ r.2.turns = s.turns := by
  obtain ⟨-, -, rfl⟩ | ⟨-, now, f, cause, -, -, rfl⟩ := lose_cases h
  · exact ⟨rfl, rfl, Sink.turns_note rfl s⟩
  · refine ⟨rfl, rfl, Sink.turns_note ?_ s⟩
    cases cause.isNormalClose <;> rfl

/-! ## what a step keeps -/

theorem url_react (b : Backoff) (input : LoopInput) (l : Loop) (s : Sink) : (l.react b input s).1.url = l.url := by
  cases input with
  | answer now hs =>
    rw [react]
    split
    · cases hs <;> rfl
    · rfl
  | frame now f => exact url_frame b now f l s
  | time now =>
    rw [react, wake]
    split
    · split <;> rfl
    · rfl

theorem url_advance (b : Backoff) (asked : Bool) (input : LoopInput) (l : Loop) (s : Sink) :
    (l.advance b asked input s).1.url = l.url := by
  simp only [advance]
  cases l.stage with
  | ended | fresh => rfl
  | connecting | streaming | waiting =>
    cases asked with
    | true => rfl
    | false => exact url_react b input l s

theorem advance_of_ended (hl : l.stage = .ended) (b : Backoff) (asked : Bool) (input : LoopInput) (s : Sink) :
    l.advance b asked input s = (l, s) := by simp only [advance, hl]

theorem stage_react (b : Backoff) (input : LoopInput) (l : Loop) (s : Sink) (hl : l.stage ≠ .ended) :
    (l.react b input s).1.stage ≠ .ended := by
  cases input with
  | answer now hs =>
    rw [react]
    split
    · cases hs with
      | undecided => exact hl
      | accepted | refused => simp [answer, backOff]
    · exact hl
  | frame now f =>
    rw [react, frame]
    split
    · exact hl
    · split
      · split <;> exact hl
      · split
        · exact hl
        · simp [backOff]
  | time now =>
    rw [react, wake]
    split
    · split
      · simp [enter]
      · exact hl
    · exact hl

/-- A loop that is not asked to end does not end. -/
theorem stage_advance (b : Backoff) (input : LoopInput) (l : Loop) (s : Sink) (hl : l.stage ≠ .ended) :
    (l.advance b false input s).1.stage ≠ .ended := by
  simp only [advance]
  cases hs : l.stage with
  | ended => exact absurd hs hl
  | fresh => simp [enter]
  | connecting | streaming | waiting => exact stage_react b input l s hl

/-- How many steps a loop makes that is asked to end. -/
def left (l : Loop) : Nat :=
  match l.stage with
  | .fresh => 2
  | .connecting | .streaming | .waiting _ => 1
  | .ended => 0

theorem left_advance (b : Backoff) (input : LoopInput) (l : Loop) (s : Sink) :
    (l.advance b true input s).1.left = l.left - 1 := by
  simp only [advance]
  cases hs : l.stage <;> simp [left, hs, enter, exit]

theorem turns_backOff (b : Backoff) (now : Nat) (l : Loop) (s : Sink) : (l.backOff b now s).2.turns = s.turns :=
  (Sink.turns_note (n := .waiting (b.delay l.attempt) l.attempt) rfl _).trans (Sink.turns_setState _ s)

theorem turns_react (b : Backoff) (input : LoopInput) (l : Loop) (s : Sink) :
    (l.react b input s).2.turns = s.turns := by
  cases input with
  | answer now hs =>
    rw [react]
    split
    · cases hs with
      | undecided => rfl
      | accepted => exact Sink.turns_setState _ s
      | refused => exact (turns_backOff b now l _).trans (Sink.turns_note (n := .failed l.attempt) rfl s)
    · rfl
  | frame now f =>
    rw [react, frame]
    split
    · rfl
    · split
      · split
        · rename_i e _
          exact Sink.turns_note (n := .event e) rfl { s with events := s.events.publish e }
        · exact Sink.turns_note rfl s
      · split
        · rfl
        · refine (turns_backOff b now _ _).trans (Sink.turns_note ?_ s)
          split <;> rfl
  | time now =>
    rw [react, wake]
    split
    · split
      · exact Sink.turns_setState _ s
      · rfl
    · rfl

theorem turns_advance (b : Backoff) (asked : Bool) (input : LoopInput) (l : Loop) (s : Sink) :
    (l.advance b asked input s).2.turns = s.turns := by
  simp only [advance]
  cases l.stage with
  | ended => rfl
  | fresh => exact Sink.turns_setState _ s
  | connecting | streaming | waiting =>
    cases asked with
    | true => exact (Sink.turns_note (n := .loopExit) rfl _).trans (Sink.turns_setState _ s)
    | false => exact turns_react b input l s

/-! ## a loop as a whole -/

/-- Steps of a loop, one after the other. -/
def advances (b : Backoff) (asked : Bool) (inputs : List LoopInput) (l : Loop) (s : Sink) : Loop × Sink :=
  inputs.foldl (fun (l, s) input => l.advance b asked input s) (l, s)

/-- Letting a loop run is a step for the time and one for the answer of its peer. -/
theorem settle_eq_advances (b : Backoff) (now : Nat) (peer : Url → Handshake) (l : Loop) (s : Sink) :
    l.settle b now peer s = l.advances b false [.time now, .answer now (peer l.url)] s := by
  simp only [settle, advances, List.foldl_cons, List.foldl_nil, advance]
  cases hs : l.stage with
  | fresh => simp [react, enter]
  | connecting | streaming | ended => simp [react, wake, hs]
  | waiting due => by_cases hd : due ≤ now <;> simp [react, wake, enter, hs, hd]

/-- Cancelling a loop is two steps of it once it is asked to end. -/
theorem cancel_eq_advances (b : Backoff) (i j : LoopInput) (l : Loop) (s : Sink) :
    l.advances b true [i, j] s = ({ l with stage := .ended }, l.cancel s) := by
  simp only [advances, List.foldl_cons, List.foldl_nil, advance, cancel]
  cases hl : l.stage with
  | ended => simp [hl]; rw [← hl]
  | fresh => simp [enter, exit]
  | connecting | streaming | waiting => simp [exit]

theorem frame_of_ne (now : Nat) (f : Frame) (b : Backoff) (l : Loop) (s : Sink) (hl : l.stage ≠ .fresh) :
    l.frame b now f s = l.advance b false (.frame now f) s ∧ (l.frame b now f s).1.stage ≠ .fresh := by
  constructor
  · simp only [advance, react]
    cases hs : l.stage with
    | fresh => exact absurd hs hl
    | ended => rw [frame, if_pos (by simp [hs])]
    | connecting | streaming | waiting => rfl
  · rw [frame]
    split
    · exact hl
    · split
      · split <;> exact hl
      · split
        · exact hl
        · simp [backOff]

/-- The frames of a session are a step each; a loop that is new has no session. -/
theorem frames_eq_advances (b : Backoff) (now : Nat) (fs : List Frame) (l : Loop) (s : Sink) :
    ∃ inputs, l.frames b now fs s = l.advances b false inputs s := by
  by_cases hl : l.stage = .fresh
  · refine ⟨[], ?_⟩
    induction fs with
    | nil => rfl
    | cons f rest ih =>
      have hf : l.frame b now f s = (l, s) := by rw [frame, if_pos (by simp [hl])]
      rw [frames, List.foldl_cons]
      dsimp only
      rw [hf]
      exact ih
  · refine ⟨fs.map (.frame now), ?_⟩
    induction fs generalizing l s with
    | nil => rfl
    | cons f rest ih =>
      obtain ⟨hf, hfresh⟩ := frame_of_ne now f b l s hl
      rw [frames, advances, List.map_cons, List.foldl_cons, List.foldl_cons]
      dsimp only
      rw [← hf]
      exact ih _ _ hfresh

end Loop

end ProxyKeeper.Feed

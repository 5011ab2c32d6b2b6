/-
The ingestion of events as tasks of their own: the one that follows the port,
the loop that it has opened last, and those that it has given up. Each makes
one step at a time, and values may be published, the publisher may go and the
end may be asked for between any two of them.

The follower looks at the port, asks the loop to end if the address has
changed, waits for it, opens another, and waits for a change. A step goes from
one place where others may come in to the next: where a task waits, and where
a loop that lost its session looks whether to try again. `Sound` is what
holds between any two steps. The loops that were given up have ended, so none
of them does anything any more (`step_runOlder`), and the sink tells of the
loop that is there and of no other (`Tasks.Told`). What the follower has seen
when it comes to a place is `Placed`: once it waits and has seen everything,
its loop is at the address of the latest value.

One shutdown is meant: `cancel` is its beginning, and it returns when the
follower has ended. A second one that overlaps it is left out. It would find
no follower to wait for, mark the feed idle itself and return at once, while
the first one still waits.
-/
import ProxyKeeper.Proofs.Feed.Steps

namespace ProxyKeeper.Ingestion

open Feed

/-- A loop as a task, which may be asked to end before it does. -/
structure LoopTask where
  loop : Loop
  asked : Bool := false
  /-- Whether it has lost its session, or could not begin one, and is about to look whether to go on. -/
  lost : Bool := false

/-- Where the task that follows the port stands. -/
inductive Stand where
  /-- About to look, at a source that it takes to be open or gone. -/
  | looking (isOpen : Bool)
  /-- Waiting for its loop to end, to open one at the address then. -/
  | closing (url : Option Url) (isOpen : Bool)
  | opening (url : Option Url) (isOpen : Bool)
  /-- Waiting for another value. -/
  | waiting
  /-- The source is gone; only the end is waited for. -/
  | holding
  /-- Waiting for its loop to end, to end itself. -/
  | leaving
  | ended

structure Tasks (S : Type) where
  settings : IngestSettings
  source : Watch S
  sink : Sink
  stand : Stand := .looking true
  watcher : Watcher := ⟨0⟩
  /-- The loop that the follower has opened last and not given up. -/
  current : Option LoopTask := none
  /-- The loops that it has given up. -/
  older : List LoopTask := []
  /-- Whether the end of the ingestion was asked for; its loops see that too. -/
  cancelled : Bool := false

/-- What may happen. -/
inductive TaskMove (S : Type) where
  | publish (value : S)
  | close
  | cancel
  /-- The follower makes a step. -/
  | follow
  /-- Its loop makes a step. -/
  | run (input : LoopInput)
  /-- A loop that was given up makes a step, if it has not ended. -/
  | runOlder (k : Nat) (input : LoopInput)

namespace LoopTask

def isAlive (l : LoopTask) : Bool := l.loop.stage ≠ .ended

/-- One step of a loop. It looks whether it was asked to end where it waits, and before it tries again. -/
def advance (b : Backoff) (cancelled : Bool) (input : LoopInput) (l : LoopTask) (s : Sink) : LoopTask × Sink :=
  if !l.isAlive then (l, s)
  else if l.asked || cancelled then
    let (loop, s) := l.loop.advance b true input s
    ({ l with loop }, s)
  else if l.lost then
    let (loop, s) := l.loop.backOff b input.now s
    ({ l with loop, lost := false }, s)
  else
    match l.loop.lose input s with
    | some (loop, s) => ({ l with loop, lost := true }, s)
    | none =>
      let (loop, s) := l.loop.advance b false input s
      ({ l with loop }, s)

variable {b : Backoff} {cancelled : Bool} {input : LoopInput} {l : LoopTask} {s : Sink}

/-- A loop that has ended does nothing. -/
theorem advance_of_ended (hl : l.isAlive = false) (b : Backoff) (cancelled : Bool) (input : LoopInput) (s : Sink) :
    l.advance b cancelled input s = (l, s) := by
  simp [advance, hl]

theorem advance_of_asked (h : (l.asked || cancelled) = true) (b : Backoff) (input : LoopInput) (s : Sink) :
    l.advance b cancelled input s =
      ({ l with loop := (l.loop.advance b true input s).1 }, (l.loop.advance b true input s).2) := by
  cases ha : l.isAlive with
  | false =>
    have hl : l.loop.stage = .ended := by simpa [isAlive] using ha
    rw [advance_of_ended ha, Loop.advance_of_ended hl]
  | true => simp only [advance, ha, h, if_true, Bool.not_true]; rfl

/-- What is so of a sink and a loop after each thing that a loop may do is so after a step. -/
theorem advance_cases {I : Loop → Sink → Prop} (b : Backoff) (cancelled : Bool) (input : LoopInput) (l : LoopTask)
    (s : Sink) (hended : l.isAlive = false → I l.loop s)
    (hexit : (l.asked || cancelled) = true → I (l.loop.advance b true input s).1 (l.loop.advance b true input s).2)
    (hback : l.isAlive = true → I (l.loop.backOff b input.now s).1 (l.loop.backOff b input.now s).2)
    (hlose : ∀ r, l.isAlive = true → l.loop.lose input s = some r → I r.1 r.2)
    (hgoing : l.isAlive = true → I (l.loop.advance b false input s).1 (l.loop.advance b false input s).2) :
    I (l.advance b cancelled input s).1.loop (l.advance b cancelled input s).2 := by
  cases ha : l.isAlive with
  | false =>
    rw [advance_of_ended ha]
    exact hended ha
  | true =>
    cases hasked : l.asked || cancelled with
    | true =>
      rw [advance_of_asked hasked]
      exact hexit hasked
    | false =>
      simp only [advance, ha, hasked]
      split
      · cases ‹_ = true›
      · split
        · cases ‹_ = true›
        · split
          · exact hback ha
          · split
            · exact hlose _ ha ‹_›
            · exact hgoing ha

theorem asked_advance (b : Backoff) (cancelled : Bool) (input : LoopInput) (l : LoopTask) (s : Sink) :
    (l.advance b cancelled input s).1.asked = l.asked := by
  unfold advance
  split
  · rfl
  · split
    · rfl
    · split
      · rfl
      · split <;> rfl

theorem told_advance (h : l.loop.Told s) (b : Backoff) (cancelled : Bool) (input : LoopInput) :
    (l.advance b cancelled input s).1.loop.Told (l.advance b cancelled input s).2 :=
  advance_cases b cancelled input l s (fun _ => h) (fun _ => h.advance b true input)
    (fun ha => .backOff (h.journal_of (by simpa [isAlive] using ha)) b input.now)
    (fun _ _ hr => h.lose hr) fun _ => h.advance b false input

theorem advance_frame (b : Backoff) (cancelled : Bool) (input : LoopInput) (l : LoopTask) (s : Sink) :
    (l.advance b cancelled input s).1.loop.url = l.loop.url ∧ (l.advance b cancelled input s).2.turns = s.turns :=
  advance_cases (I := fun loop s' => loop.url = l.loop.url ∧ s'.turns = s.turns) b cancelled input l s
    (fun _ => ⟨rfl, rfl⟩) (fun _ => ⟨Loop.url_advance .., Loop.turns_advance ..⟩)
    (fun _ => ⟨rfl, Loop.turns_backOff ..⟩) (fun _ _ hr => ⟨(Loop.lose_frame hr).1, (Loop.lose_frame hr).2.2⟩)
    fun _ => ⟨Loop.url_advance .., Loop.turns_advance ..⟩

/-- A loop that is not asked to end does not end. -/
theorem isAlive_advance (ha : l.isAlive = true) (hasked : (l.asked || cancelled) = false) (b : Backoff)
    (input : LoopInput) (s : Sink) : (l.advance b cancelled input s).1.isAlive = true := by
  have hl : l.loop.stage ≠ .ended := by simpa [isAlive] using ha
  have hstill : (l.advance b cancelled input s).1.loop.stage ≠ .ended :=
    advance_cases (I := fun loop _ => loop.stage ≠ .ended) b cancelled input l s (fun _ => hl)
      (fun h => absurd (h.symm.trans hasked) (by decide)) (fun _ => by simp [Loop.backOff])
      (fun _ _ hr => (Loop.lose_frame hr).2.1 ▸ hl) fun _ => Loop.stage_advance b input l.loop s hl
  simpa [isAlive] using hstill

/-- What a loop does that is not asked to end, its task does in one step or, where it loses its session, in two. -/
theorem advance_once_or_twice (b : Backoff) (input : LoopInput) (loop : Loop) (s : Sink) :
    let first := ({ loop } : LoopTask).advance b false input s
    let whole : LoopTask × Sink := ({ loop := (loop.advance b false input s).1 }, (loop.advance b false input s).2)
    first = whole ∨ first.1.advance b false input first.2 = whole := by
  intro first whole
  by_cases hl : loop.stage = .ended
  · have hdone : ({ loop } : LoopTask).isAlive = false := by simpa [isAlive] using hl
    refine .inl ((advance_of_ended hdone b false input s).trans ?_)
    simp only [whole, Loop.advance_of_ended hl]
  · cases hlose : loop.lose input s with
    | none => exact .inl (by simp [first, whole, advance, isAlive, hl, hlose])
    | some r =>
      have halive : r.1.stage ≠ .ended := (Loop.lose_frame hlose).2.1 ▸ hl
      have hfirst : first = ({ loop := r.1, lost := true }, r.2) := by simp [first, advance, isAlive, hl, hlose]
      refine .inr ?_
      simp [hfirst, whole, Loop.advance_of_lose hlose, advance, isAlive, halive]

end LoopTask

/-- Where the follower waits for what comes next. -/
def Stand.rest (isOpen : Bool) : Stand := if isOpen then .waiting else .holding

namespace Tasks

variable {S : Type}

/-- The ingestion before any step. -/
def create (settings : IngestSettings) (source : Watch S) : Tasks S :=
  { settings, source, sink := (Ingestion.create settings).sink }

/-- The address of the loop that is there. -/
def address (t : Tasks S) : Option Url := t.current.map (·.loop.url)

/-- All loops that were ever opened, the latest first. -/
def loops (t : Tasks S) : List LoopTask := t.current.toList ++ t.older

/-- Whether the follower's loop has not ended. -/
def isAlive (t : Tasks S) : Bool := t.current.any LoopTask.isAlive

/-- The follower looks at the port, and asks its loop to end unless that is at the right address. -/
def look (portOf : S → Option UInt16) (isOpen : Bool) (t : Tasks S) : Tasks S :=
  let (url, sink) := wanted (portOf t.source.value) { settings := t.settings, sink := t.sink }
  let t := { t with sink, watcher := t.source.subscribe }
  if t.address = url then { t with stand := .rest isOpen }
  else
    match t.current with
    | none => { t with stand := .opening url isOpen }
    | some l =>
      { t with
        sink := t.sink.note (.closing l.loop.url)
        current := some { l with asked := true }
        stand := .closing url isOpen }

def giveUp (t : Tasks S) : Tasks S := { t with current := none, older := t.loops }

/-- The follower opens a loop where one is wanted. -/
def openFeed (url : Option Url) (isOpen : Bool) (t : Tasks S) : Tasks S :=
  match url with
  | none => { t with sink := t.sink.markIdle, stand := .rest isOpen }
  | some url =>
    let sink := t.sink.note (.opening url)
    match connect url with
    | .ok loop => { t with sink, current := some { loop }, stand := .rest isOpen }
    | .error _ => { t with sink := sink.markIdle, stand := .rest isOpen }

/-- The follower leaves its loop, which it asks to end first. -/
def leave (t : Tasks S) : Tasks S :=
  { t with current := t.current.map fun l => { l with asked := true }, stand := .leaving }

/-- One step of the follower. Where it waits it looks first whether it ought to end. -/
def follow (portOf : S → Option UInt16) (t : Tasks S) : Tasks S :=
  match t.stand with
  | .looking isOpen => t.look portOf isOpen
  | .closing url isOpen => if t.isAlive then t else { t.giveUp with stand := .opening url isOpen }
  | .opening url isOpen => t.openFeed url isOpen
  | .waiting =>
    if t.cancelled then t.leave
    else
      match t.source.notice t.watcher with
      | .changed => { t with stand := .looking true }
      | .closed => { t with stand := .looking false }
      | .pending => t
  | .holding => if t.cancelled then t.leave else t
  | .leaving => if t.isAlive then t else { t.giveUp with sink := t.sink.markIdle, stand := .ended }
  | .ended => t

def step (portOf : S → Option UInt16) (t : Tasks S) : TaskMove S → Tasks S
  | .publish value => if t.source.live then { t with source := t.source.publish value } else t
  | .close => { t with source := t.source.close }
  | .cancel => { t with cancelled := true }
  | .follow => t.follow portOf
  | .run input =>
    match t.current with
    | none => t
    | some l =>
      let (l, sink) := l.advance t.settings.backoff t.cancelled input t.sink
      { t with current := some l, sink }
  | .runOlder k input =>
    match t.older[k]? with
    | none => t
    | some l =>
      let (l, sink) := l.advance t.settings.backoff t.cancelled input t.sink
      { t with older := t.older.set k l, sink }

def run (portOf : S → Option UInt16) (moves : List (TaskMove S)) (t : Tasks S) : Tasks S :=
  moves.foldl (step portOf) t

theorem run_append (portOf : S → Option UInt16) (a b : List (TaskMove S)) (t : Tasks S) :
    run portOf (a ++ b) t = run portOf b (run portOf a t) := List.foldl_append

/-! ## addresses that are wanted -/

/-- A feed can be opened at any address that is wanted for a port. -/
theorem connect_of_urlFor {e : Endpoint} {port : UInt16} {url : Url} (h : e.urlFor port = .ok url) :
    connect url = .ok { url } := by
  rw [Endpoint.urlFor] at h
  split at h
  · cases h
  · split at h
    · cases h
    · split at h
      · cases h
        exact if_pos ‹_›
      · cases h

theorem connect_of_addressOf {e : Endpoint} {port : Option UInt16} {url : Url} (h : some url = addressOf e port) :
    connect url = .ok { url } := by
  cases port with
  | none => cases h
  | some p =>
    simp only [addressOf, Option.bind_some] at h
    cases hu : e.urlFor p with
    | error cause => rw [hu] at h; cases h
    | ok u =>
      rw [hu] at h
      cases h
      exact connect_of_urlFor hu

/-- What is asked of a port leaves a note at most. -/
theorem sink_wanted (port : Option UInt16) (i : Ingestion) :
    (i.wanted port).2 = i.sink ∨ ∃ cause, (i.wanted port).2 = i.sink.note (.unusable cause) := by
  cases port with
  | none => exact .inl rfl
  | some p =>
    rw [wanted]
    cases i.settings.endpoint.urlFor p with
    | ok url => exact .inl rfl
    | error cause => exact .inr ⟨cause, rfl⟩

/-! ## between two steps -/

/-- The sink tells of the follower's loop, or that there is none. -/
def Told (t : Tasks S) : Prop :=
  match t.current with
  | none => t.sink.state.value = .idle ∧ t.sink.Tells none
  | some l => l.loop.Told t.sink

/-- A watcher knows the address of the latest value if it has seen that; once it takes the source to be gone, it has. -/
structure Knows (endpoint : Endpoint) (portOf : S → Option UInt16) (source : Watch S) (watcher : Watcher)
    (isOpen : Bool) (url : Option Url) : Prop where
  seen : watcher.seen ≤ source.version
  latest : watcher.seen = source.version → url = addressOf endpoint (portOf source.value)
  gone : isOpen = false → source.live = false ∧ watcher.seen = source.version

/-- Whether the follower's loop was asked to end, if there is one. -/
def Asked (asked : Bool) (t : Tasks S) : Prop := ∀ l ∈ t.current, l.asked = asked

/-- What holds where the follower stands. -/
def Placed (portOf : S → Option UInt16) (t : Tasks S) : Prop :=
  let knows := Knows t.settings.endpoint portOf t.source t.watcher
  match t.stand with
  | .looking isOpen => t.Asked false ∧ (isOpen = false → t.source.live = false)
  | .closing url isOpen => t.Asked true ∧ (∃ port, url = addressOf t.settings.endpoint port) ∧ knows isOpen url
  | .opening url isOpen =>
    t.current = none ∧ (∃ port, url = addressOf t.settings.endpoint port) ∧ knows isOpen url
  | .waiting => t.Asked false ∧ knows true t.address
  | .holding => t.Asked false ∧ knows false t.address
  | .leaving => t.cancelled = true
  | .ended => t.cancelled = true ∧ t.current = none

structure Sound (portOf : S → Option UInt16) (t : Tasks S) : Prop where
  older : ∀ l ∈ t.older, l.isAlive = false
  told : t.Told
  /-- A loop ends only when it is asked to. -/
  ended : ∀ l ∈ t.current, l.isAlive = false → l.asked = true ∨ t.cancelled = true
  placed : t.Placed portOf

theorem Sound.create (portOf : S → Option UInt16) (settings : IngestSettings) (source : Watch S) :
    (create settings source).Sound portOf where
  older _ h := absurd h (by simp [Tasks.create])
  told := ⟨rfl, .create _ _⟩
  ended _ h := absurd h (by simp [Tasks.create])
  placed := ⟨fun _ h => absurd h (by simp [Tasks.create]), fun h => absurd h (by simp)⟩

variable {portOf : S → Option UInt16} {t : Tasks S}

/-! ## the sink -/

theorem Told.of_none (h : t.Told) (hc : t.current = none) : t.sink.state.value = .idle ∧ t.sink.Tells none := by
  rwa [Told, hc] at h

theorem Told.of_some (h : t.Told) {l : LoopTask} (hc : t.current = some l) : l.loop.Told t.sink := by
  rwa [Told, hc] at h

theorem Told.tells (h : t.Told) : ∃ loop, t.sink.Tells loop := by
  cases hc : t.current with
  | none => exact ⟨none, (h.of_none hc).2⟩
  | some l => exact ⟨_, (h.of_some hc).journal⟩

/-- Asking for an address keeps what the sink tells. -/
theorem Told.wanted (h : t.Told) (port : Option UInt16) :
    Told { t with sink := (Ingestion.wanted port { settings := t.settings, sink := t.sink }).2 } := by
  rcases sink_wanted port { settings := t.settings, sink := t.sink } with hs | ⟨cause, hs⟩ <;> rw [hs]
  · exact h
  · rw [Told] at h ⊢
    dsimp only
    cases hc : t.current with
    | none =>
      rw [hc] at h
      exact ⟨h.1, h.2.unusable cause⟩
    | some l =>
      rw [hc] at h
      exact h.note rfl rfl

/-- Where no loop of the follower's is alive the state is idle. -/
theorem Told.of_not_isAlive (h : t.Told) (ha : t.isAlive = false) : t.sink.state.value = .idle ∧ t.sink.Tells none := by
  cases hc : t.current with
  | none => exact h.of_none hc
  | some l =>
    have hl : l.loop.stage = .ended := by simpa [isAlive, hc, LoopTask.isAlive] using ha
    have hs := (h.of_some hc).state
    have hj := (h.of_some hc).journal
    rw [Loop.state, hl] at hs
    rw [Loop.address?, if_pos hl] at hj
    exact ⟨hs, hj⟩

theorem Sound.giveUp (h : t.Sound portOf) (ha : t.isAlive = false) : ∀ l ∈ t.giveUp.older, l.isAlive = false := by
  intro l hl
  rcases List.mem_append.1 hl with hl | hl
  · have hc : t.current = some l := Option.mem_toList.1 hl
    simpa [isAlive, hc] using ha
  · exact h.older l hl

/-! ## the follower -/

/-- All that a look can come to. -/
theorem look_cases (portOf : S → Option UInt16) (isOpen : Bool) (t : Tasks S) :
    let url := addressOf t.settings.endpoint (portOf t.source.value)
    let seen : Tasks S :=
      { t with
        sink := (wanted (portOf t.source.value) { settings := t.settings, sink := t.sink }).2
        watcher := t.source.subscribe }
    (t.address = url ∧ t.look portOf isOpen = { seen with stand := .rest isOpen }) ∨
      (t.address ≠ url ∧ t.current = none ∧ t.look portOf isOpen = { seen with stand := .opening url isOpen }) ∨
      (t.address ≠ url ∧ ∃ l, t.current = some l ∧ t.look portOf isOpen =
        { seen with
          sink := seen.sink.note (.closing l.loop.url)
          current := some { l with asked := true }
          stand := .closing url isOpen }) := by
  have hurl := wanted_eq (portOf t.source.value) { settings := t.settings, sink := t.sink }
  rw [look]
  dsimp only at hurl ⊢
  rw [hurl]
  by_cases ha : t.address = addressOf t.settings.endpoint (portOf t.source.value)
  · exact .inl ⟨ha, if_pos ha⟩
  · refine .inr ?_
    have hn : ¬ ({ t with
        sink := (wanted (portOf t.source.value) { settings := t.settings, sink := t.sink }).2
        watcher := t.source.subscribe } : Tasks S).address =
          addressOf t.settings.endpoint (portOf t.source.value) := ha
    rw [if_neg hn]
    cases hc : t.current with
    | none => exact .inl ⟨ha, rfl, rfl⟩
    | some l => exact .inr ⟨ha, l, rfl, rfl⟩

/-- What has changed between two states is the sink, the loops and where the follower stands, if anything. -/
structure Frame (t t' : Tasks S) : Prop where
  settings : t'.settings = t.settings
  source : t'.source = t.source
  cancelled : t'.cancelled = t.cancelled

theorem openFeed_frame (url : Option Url) (isOpen : Bool) (t : Tasks S) :
    t.Frame (t.openFeed url isOpen) ∧ (t.openFeed url isOpen).stand = .rest isOpen ∧
      (t.openFeed url isOpen).watcher = t.watcher := by
  unfold openFeed
  cases url with
  | none => exact ⟨⟨rfl, rfl, rfl⟩, rfl, rfl⟩
  | some url =>
    simp only
    split <;> exact ⟨⟨rfl, rfl, rfl⟩, rfl, rfl⟩

theorem follow_frame (portOf : S → Option UInt16) (t : Tasks S) : t.Frame (t.follow portOf) := by
  rw [follow]
  split
  · obtain ⟨-, hl⟩ | ⟨-, -, hl⟩ | ⟨-, l, -, hl⟩ := look_cases portOf _ t <;> rw [hl] <;> exact ⟨rfl, rfl, rfl⟩
  · split <;> exact ⟨rfl, rfl, rfl⟩
  · exact (t.openFeed_frame _ _).1
  · split
    · exact ⟨rfl, rfl, rfl⟩
    · split <;> exact ⟨rfl, rfl, rfl⟩
  · split <;> exact ⟨rfl, rfl, rfl⟩
  · split <;> exact ⟨rfl, rfl, rfl⟩
  · exact ⟨rfl, rfl, rfl⟩

/-- A step of the loop leaves the follower where it stands. -/
theorem run_frame (portOf : S → Option UInt16) (input : LoopInput) (t : Tasks S) :
    t.Frame (t.step portOf (.run input)) ∧ (t.step portOf (.run input)).stand = t.stand ∧
      (t.step portOf (.run input)).watcher = t.watcher := by
  rw [step]
  cases t.current <;> exact ⟨⟨rfl, rfl, rfl⟩, rfl, rfl⟩

theorem settings_step (portOf : S → Option UInt16) (m : TaskMove S) (t : Tasks S) :
    (t.step portOf m).settings = t.settings := by
  cases m with
  | publish value =>
    rw [step]
    split <;> rfl
  | close | cancel => rfl
  | follow => exact (t.follow_frame portOf).settings
  | run input => exact (t.run_frame portOf input).1.settings
  | runOlder k input =>
    rw [step]
    split <;> rfl

theorem settings_run (portOf : S → Option UInt16) (moves : List (TaskMove S)) (t : Tasks S) :
    (t.run portOf moves).settings = t.settings := by
  induction moves generalizing t with
  | nil => rfl
  | cons m rest ih => exact (ih (t.step portOf m)).trans (settings_step portOf m t)

/-- What a watcher knows that has just looked. -/
theorem knows_subscribe (endpoint : Endpoint) (portOf : S → Option UInt16) {source : Watch S} {isOpen : Bool}
    (hgone : isOpen = false → source.live = false) :
    Knows endpoint portOf source source.subscribe isOpen (addressOf endpoint (portOf source.value)) :=
  ⟨Nat.le_refl _, fun _ => rfl, fun h => ⟨hgone h, rfl⟩⟩

theorem placed_rest {isOpen : Bool} (hs : t.stand = .rest isOpen) (hasked : t.Asked false)
    (hk : Knows t.settings.endpoint portOf t.source t.watcher isOpen t.address) : t.Placed portOf := by
  rw [Placed, hs]
  cases isOpen with
  | true => exact ⟨hasked, hk⟩
  | false => exact ⟨hasked, hk⟩

theorem Sound.look (h : t.Sound portOf) {isOpen : Bool} (hs : t.stand = .looking isOpen) :
    (t.look portOf isOpen).Sound portOf := by
  have hp := h.placed
  rw [Placed, hs] at hp
  obtain ⟨hasked, hgone⟩ := hp
  have told := h.told.wanted (portOf t.source.value)
  rcases look_cases portOf isOpen t with ⟨ha, hl⟩ | ⟨-, hc, hl⟩ | ⟨-, l, hc, hl⟩ <;> rw [hl]
  · refine ⟨h.older, told, h.ended, placed_rest rfl hasked ?_⟩
    have hk := knows_subscribe t.settings.endpoint portOf hgone
    rwa [← ha] at hk
  · exact ⟨h.older, told, h.ended, hc, ⟨_, rfl⟩, knows_subscribe _ portOf hgone⟩
  · have hasked : ∀ l' ∈ some { l with asked := true }, l'.asked = true := fun l' hl' => by
      cases hl'
      rfl
    refine ⟨h.older, ?_, fun l' hl' _ => .inl (hasked l' hl'), hasked, ⟨_, rfl⟩, knows_subscribe _ portOf hgone⟩
    exact (told.of_some hc).note rfl rfl

/-- Where the follower is about to open there is no loop, and the address is one that may be wanted. -/
theorem Sound.of_opening (h : t.Sound portOf) {url : Option Url} {isOpen : Bool} (hs : t.stand = .opening url isOpen) :
    t.current = none ∧ (∃ port, url = addressOf t.settings.endpoint port) ∧
      Knows t.settings.endpoint portOf t.source t.watcher isOpen url := by
  have hp := h.placed
  rwa [Placed, hs] at hp

theorem Sound.of_ended (h : t.Sound portOf) (hs : t.stand = .ended) : t.cancelled = true ∧ t.current = none := by
  have hp := h.placed
  rwa [Placed, hs] at hp

theorem Sound.openFeed (h : t.Sound portOf) {url : Option Url} {isOpen : Bool} (hs : t.stand = .opening url isOpen) :
    (t.openFeed url isOpen).Sound portOf := by
  obtain ⟨hc, ⟨port, hport⟩, hk⟩ := h.of_opening hs
  have told := h.told.of_none hc
  cases url with
  | none =>
    rw [Tasks.openFeed, Sink.markIdle_of_idle told.1]
    refine ⟨h.older, h.told, h.ended, placed_rest rfl (fun l hl => ?_) ?_⟩
    · rw [hc] at hl
      cases hl
    · have ha : t.address = none := by rw [address, hc]; rfl
      exact ha.symm ▸ hk
  | some url =>
    rw [Tasks.openFeed, connect_of_addressOf hport]
    refine ⟨h.older, ⟨told.1, told.2.opening told.1 url⟩, fun l hl hend => ?_, placed_rest rfl (fun l hl => ?_) ?_⟩
    · cases hl
      cases hend
    · cases hl
      rfl
    · exact hk

theorem Sound.leave (h : t.Sound portOf) (hc : t.cancelled = true) : t.leave.Sound portOf := by
  refine ⟨h.older, ?_, fun _ _ _ => .inr hc, hc⟩
  have told := h.told
  rw [Told] at told
  rw [Tasks.leave, Told]
  cases hcur : t.current <;> rw [hcur] at told <;> exact told

/-- Where the follower waits for its loop it goes on once that has ended, and has no loop then. -/
theorem Sound.givenUp (h : t.Sound portOf) (ha : t.isAlive = false) {t' : Tasks S} (hcurrent : t'.current = none)
    (holder : t'.older = t.giveUp.older) (hsink : t'.sink = t.sink) (hplaced : t'.Placed portOf) :
    t'.Sound portOf := by
  refine ⟨fun l hl => h.giveUp ha l (holder ▸ hl), ?_, fun l hl => ?_, hplaced⟩
  · rw [Told, hcurrent, hsink]
    exact h.told.of_not_isAlive ha
  · rw [hcurrent] at hl
    cases hl

theorem Sound.follow (h : t.Sound portOf) : (t.follow portOf).Sound portOf := by
  have hp := h.placed
  rw [Placed] at hp
  rw [Tasks.follow]
  cases hs : t.stand with
  | looking isOpen => exact h.look hs
  | opening url isOpen => exact h.openFeed hs
  | closing url isOpen =>
    rw [hs] at hp
    dsimp only
    cases ha : t.isAlive with
    | true => exact h
    | false => exact h.givenUp ha rfl rfl rfl ⟨rfl, hp.2⟩
  | leaving =>
    rw [hs] at hp
    dsimp only
    cases ha : t.isAlive with
    | true => exact h
    | false =>
      have hidle := Sink.markIdle_of_idle (h.told.of_not_isAlive ha).1
      exact h.givenUp ha rfl rfl hidle ⟨hp, rfl⟩
  | waiting =>
    rw [hs] at hp
    dsimp only
    split
    · exact h.leave ‹_›
    · split
      · exact ⟨h.older, h.told, h.ended, hp.1, fun hopen => absurd hopen (by decide)⟩
      · exact ⟨h.older, h.told, h.ended, hp.1, fun _ => Watch.live_of_notice_closed ‹_›⟩
      · exact h
  | holding =>
    dsimp only
    split
    · exact h.leave ‹_›
    · exact h
  | ended => exact h

/-! ## loops -/

/-- What does not change when the loop makes a step. -/
theorem step_run_of_current {l : LoopTask} (hc : t.current = some l) (portOf : S → Option UInt16) (input : LoopInput) :
    t.step portOf (.run input) =
      { t with
        current := some (l.advance t.settings.backoff t.cancelled input t.sink).1
        sink := (l.advance t.settings.backoff t.cancelled input t.sink).2 } := by
  rw [step, hc]

/-- A loop that was given up does nothing any more. -/
theorem Sound.step_runOlder (h : t.Sound portOf) (k : Nat) (input : LoopInput) :
    t.step portOf (.runOlder k input) = t := by
  rw [step]
  split
  · rfl
  · rename_i l hl
    have hend := h.older l (List.mem_of_getElem? hl)
    rw [LoopTask.advance_of_ended hend]
    have hset : t.older.set k l = t.older := by
      obtain ⟨hk, hget⟩ := List.getElem?_eq_some_iff.1 hl
      rw [← hget, List.set_getElem_self]
    show { t with older := t.older.set k l } = t
    rw [hset]

/-- What the follower knows where it stands, it still knows after what leaves it there. -/
theorem Placed.mono (h : t.Placed portOf) {t' : Tasks S} (hstand : t'.stand = t.stand)
    (hsettings : t'.settings = t.settings) (haddress : t'.address = t.address)
    (hasked : ∀ asked, t.Asked asked → t'.Asked asked) (hcancelled : t.cancelled = true → t'.cancelled = true)
    (hlive : t.source.live = false → t'.source.live = false)
    (hknows : ∀ isOpen url, Knows t.settings.endpoint portOf t.source t.watcher isOpen url →
      Knows t.settings.endpoint portOf t'.source t'.watcher isOpen url) :
    t'.Placed portOf := by
  have hnone : t.current = none → t'.current = none := by
    intro hc
    rw [address, address, hc] at haddress
    exact Option.map_eq_none_iff.1 haddress
  rw [Placed] at h ⊢
  rw [hstand, hsettings, haddress]
  cases hs : t.stand <;> simp only [hs] at h ⊢
  case looking isOpen => exact ⟨hasked _ h.1, fun hopen => hlive (h.2 hopen)⟩
  case closing url isOpen => exact ⟨hasked _ h.1, h.2.1, hknows _ _ h.2.2⟩
  case opening url isOpen => exact ⟨hnone h.1, h.2.1, hknows _ _ h.2.2⟩
  case waiting => exact ⟨hasked _ h.1, hknows _ _ h.2⟩
  case holding => exact ⟨hasked _ h.1, hknows _ _ h.2⟩
  case leaving => exact hcancelled h
  case ended => exact ⟨hcancelled h.1, hnone h.2⟩

theorem Sound.runLoop (h : t.Sound portOf) (input : LoopInput) : (t.step portOf (.run input)).Sound portOf := by
  cases hc : t.current with
  | none =>
    rw [step, hc]
    exact h
  | some l =>
    rw [step_run_of_current hc]
    have told := h.told.of_some hc
    have hasked := LoopTask.asked_advance t.settings.backoff t.cancelled input l t.sink
    have hurl := (LoopTask.advance_frame t.settings.backoff t.cancelled input l t.sink).1
    refine ⟨h.older, LoopTask.told_advance told _ _ _, fun l' hl' hend => ?_,
      h.placed.mono rfl rfl ?_ (fun asked h' l' hl' => ?_) id id fun _ _ => id⟩
    · -- One that ends now was asked to, and one that had ended before was, too.
      cases hl'
      rw [hasked]
      cases hflag : l.asked || t.cancelled with
      | true => simpa using hflag
      | false =>
        cases ha : l.isAlive with
        | false => exact h.ended l hc ha
        | true =>
          rw [LoopTask.isAlive_advance ha hflag] at hend
          cases hend
    · rw [address, address, hc]
      exact congrArg some hurl
    · cases hl'
      exact hasked.trans (h' l hc)

/-! ## every schedule -/

theorem Knows.publish {endpoint : Endpoint} {source : Watch S} {watcher : Watcher} {isOpen : Bool} {url : Option Url}
    (h : Knows endpoint portOf source watcher isOpen url) (hl : source.live = true) (value : S) :
    Knows endpoint portOf (source.publish value) watcher isOpen url := by
  have hseen := h.seen
  refine ⟨Nat.le_succ_of_le hseen, fun hv => ?_, fun hopen => ?_⟩
  · rw [Watch.version_publish] at hv
    omega
  · exact absurd ((h.gone hopen).1.symm.trans hl) (by decide)

theorem Sound.step (h : t.Sound portOf) (m : TaskMove S) : (t.step portOf m).Sound portOf := by
  cases m with
  | publish value =>
    rw [Tasks.step]
    split
    · exact ⟨h.older, h.told, h.ended, h.placed.mono rfl rfl rfl (fun _ => id) id id fun _ _ hk => hk.publish ‹_› value⟩
    · exact h
  | close =>
    exact ⟨h.older, h.told, h.ended, h.placed.mono rfl rfl rfl (fun _ => id) id (fun _ => rfl) fun _ _ hk =>
      ⟨hk.seen, hk.latest, fun hopen => ⟨rfl, (hk.gone hopen).2⟩⟩⟩
  | cancel =>
    exact ⟨h.older, h.told, fun _ _ _ => .inr rfl,
      h.placed.mono rfl rfl rfl (fun _ => id) (fun _ => rfl) id fun _ _ => id⟩
  | follow => exact h.follow
  | run input => exact h.runLoop input
  | runOlder k input =>
    rw [h.step_runOlder]
    exact h

theorem Sound.run (h : t.Sound portOf) (moves : List (TaskMove S)) : (t.run portOf moves).Sound portOf :=
  List.foldlRecOn _ _ h fun _ h m _ => h.step m

end Tasks

end ProxyKeeper.Ingestion

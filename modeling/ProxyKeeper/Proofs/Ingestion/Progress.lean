/-
How an ingestion gets on when its follower and its loop are given turns.

A stretch of a schedule is fair when both have a turn in it. In one that is
not yet where it is going, one of the two is due: the loop while the follower
waits for its end (`Blocked`), and the follower otherwise. A rank that falls
with the move that is due, and never rises, falls with every fair stretch
(`Descends.run_blocks`). There are two of them: one to the end, once that was
asked for (`ends`), and one to rest, once nothing is published (`settles`).
-/
import ProxyKeeper.Proofs.Ingestion.Tasks

namespace ProxyKeeper.Ingestion

open Feed

variable {S : Type}

/-- Whether a move is a step of a task. -/
def TaskMove.IsStep : TaskMove S → Prop
  | .follow | .run _ | .runOlder .. => True
  | .publish _ | .close | .cancel => False

/-- A stretch of a schedule in which the follower and its loop have a turn. -/
def Fair (moves : List (TaskMove S)) : Prop := .follow ∈ moves ∧ ∃ input, .run input ∈ moves

/-- Whether the follower waits here for the end of its loop. -/
def Stand.awaitsEnd : Stand → Bool
  | .closing .. | .leaving => true
  | .looking _ | .opening .. | .waiting | .holding | .ended => false

namespace Tasks

/-- The follower has seen all that is published and waits for more, or for the end. -/
def Rests (t : Tasks S) : Prop :=
  t.stand = .waiting ∧ t.source.notice t.watcher = .pending ∨ t.stand = .holding

/-- The follower goes on only when its loop has ended. -/
def Blocked (t : Tasks S) : Prop := t.stand.awaitsEnd = true ∧ t.isAlive = true

/-- The move that gets the ingestion on. -/
def Due (t : Tasks S) : TaskMove S → Prop
  | .follow => ¬ t.Blocked
  | .run _ => t.Blocked
  | .publish _ | .close | .cancel | .runOlder .. => False

variable {portOf : S → Option UInt16} {t : Tasks S}

/-! ## ranks -/

/-- A move lowers a rank or keeps it, and then it was not due and nothing else is due after it. -/
def Lowers (portOf : S → Option UInt16) (rank : Tasks S → Nat) (t : Tasks S) (m : TaskMove S) : Prop :=
  rank (t.step portOf m) < rank t ∨
    rank (t.step portOf m) = rank t ∧ (rank t ≠ 0 → ¬ t.Due m ∧ ((t.step portOf m).Blocked ↔ t.Blocked))

/-- A rank that no move raises and that falls with the move that is due, where `I` holds and `Ok` moves are made. -/
structure Descends (portOf : S → Option UInt16) (rank : Tasks S → Nat) (I : Tasks S → Prop)
    (Ok : TaskMove S → Prop) : Prop where
  keeps : ∀ {t m}, I t → Ok m → I (t.step portOf m)
  lowers : ∀ {t m}, I t → Ok m → Lowers portOf rank t m

variable {rank : Tasks S → Nat} {I : Tasks S → Prop} {Ok : TaskMove S → Prop}

theorem due_congr {t' : Tasks S} (h : t'.Blocked ↔ t.Blocked) (m : TaskMove S) : t'.Due m ↔ t.Due m := by
  cases m with
  | follow => exact not_congr h
  | run input => exact h
  | publish | close | cancel | runOlder => exact Iff.rfl

theorem Descends.keeps_run (hd : Descends portOf rank I Ok) (hI : I t) {moves : List (TaskMove S)}
    (hok : ∀ m ∈ moves, Ok m) : I (t.run portOf moves) := by
  induction moves generalizing t with
  | nil => exact hI
  | cons m rest ih => exact ih (hd.keeps hI (hok m (by simp))) fun m' hm' => hok m' (by simp [hm'])

/-- Over a stretch the rank falls, or none of its moves was due. -/
theorem Descends.run (hd : Descends portOf rank I Ok) (hI : I t) {moves : List (TaskMove S)}
    (hok : ∀ m ∈ moves, Ok m) :
    rank (t.run portOf moves) < rank t ∨
      rank (t.run portOf moves) = rank t ∧ (rank t ≠ 0 → ∀ m ∈ moves, ¬ t.Due m) := by
  induction moves generalizing t with
  | nil => exact .inr ⟨rfl, fun _ m hm => absurd hm (by simp)⟩
  | cons m rest ih =>
    have hrest := ih (hd.keeps hI (hok m (by simp))) fun m' hm' => hok m' (by simp [hm'])
    change rank ((t.step portOf m).run portOf rest) < _ ∨ rank ((t.step portOf m).run portOf rest) = _ ∧ _
    obtain hlt | ⟨heq, hdue⟩ := hd.lowers hI (hok m (by simp))
    · left
      obtain hlt' | ⟨heq', -⟩ := hrest <;> omega
    · obtain hlt' | ⟨heq', hdue'⟩ := hrest
      · left
        omega
      · refine .inr ⟨heq'.trans heq, fun hne m' hm' => ?_⟩
        obtain ⟨hm, hblocked⟩ := hdue hne
        obtain rfl | hm' := List.mem_cons.1 hm'
        · exact hm
        · exact fun hd' => hdue' (heq ▸ hne) m' hm' ((due_congr hblocked m').2 hd')

theorem Descends.run_fair (hd : Descends portOf rank I Ok) (hI : I t) {moves : List (TaskMove S)}
    (hok : ∀ m ∈ moves, Ok m) (hfair : Fair moves) : rank (t.run portOf moves) ≤ rank t - 1 := by
  obtain hlt | ⟨heq, hdue⟩ := hd.run hI hok
  · omega
  · by_cases hz : rank t = 0
    · omega
    · exfalso
      obtain ⟨hfollow, input, hrun⟩ := hfair
      by_cases hb : t.Blocked
      · exact hdue hz _ hrun hb
      · exact hdue hz _ hfollow hb

/-- **Every fair stretch lowers the rank.** -/
theorem Descends.run_blocks (hd : Descends portOf rank I Ok) (hI : I t) {blocks : List (List (TaskMove S))}
    (hok : ∀ b ∈ blocks, Fair b ∧ ∀ m ∈ b, Ok m) :
    I (t.run portOf blocks.flatten) ∧ rank (t.run portOf blocks.flatten) ≤ rank t - blocks.length := by
  induction blocks generalizing t with
  | nil => exact ⟨hI, Nat.le_refl _⟩
  | cons b rest ih =>
    obtain ⟨hfair, hb⟩ := hok b (by simp)
    have hfirst := hd.run_fair hI hb hfair
    obtain ⟨hkept, hrest⟩ := ih (hd.keeps_run hI hb) fun b' hb' => hok b' (by simp [hb'])
    rw [List.flatten_cons, run_append, List.length_cons]
    exact ⟨hkept, by omega⟩

/-! ## the loop -/

/-- How many steps the follower's loop makes once it is asked to end. -/
def loopLeft (t : Tasks S) : Nat := (t.current.map (·.loop.left)).getD 0

theorem loopLeft_le (t : Tasks S) : t.loopLeft ≤ 2 := by
  unfold loopLeft
  cases t.current with
  | none => simp
  | some l => cases hl : l.loop.stage <;> simp [Loop.left, hl]

theorem isAlive_iff : t.isAlive = true ↔ t.loopLeft ≠ 0 := by
  unfold isAlive loopLeft
  cases t.current with
  | none => simp
  | some l => cases hl : l.loop.stage <;> simp [LoopTask.isAlive, Loop.left, hl]

theorem loopLeft_run (portOf : S → Option UInt16) (h : t.Asked true ∨ t.cancelled = true) (input : LoopInput) :
    (t.step portOf (.run input)).loopLeft = t.loopLeft - 1 := by
  cases hc : t.current with
  | none => simp [step, loopLeft, hc]
  | some l =>
    have hflag : (l.asked || t.cancelled) = true := by
      obtain ha | ha := h
      · simp [ha l hc]
      · simp [ha]
    have hleft := Loop.left_advance t.settings.backoff input l.loop t.sink
    rw [step_run_of_current hc]
    simp only [loopLeft, hc, LoopTask.advance_of_asked hflag, Option.map_some, Option.getD_some]
    exact hleft

theorem blocked_congr {t' : Tasks S} (hs : t'.stand = t.stand) (hl : t'.loopLeft = t.loopLeft) :
    t'.Blocked ↔ t.Blocked := by
  unfold Blocked
  rw [isAlive_iff, isAlive_iff, hs, hl]

theorem not_blocked (h : t.stand.awaitsEnd = false) : ¬ t.Blocked := by
  intro hb
  exact absurd (h.symm.trans hb.1) (by decide)

theorem loopLeft_of_not_isAlive (h : t.isAlive = false) : t.loopLeft = 0 := by
  have := isAlive_iff (t := t)
  rw [h] at this
  simpa using this

/-! ## what lowers a rank -/

theorem lowers_follow (h : rank (t.follow portOf) < rank t ∨ t.follow portOf = t ∧ (t.Blocked ∨ rank t = 0)) :
    Lowers portOf rank t .follow := by
  obtain hlt | ⟨heq, hb⟩ := h
  · exact .inl hlt
  · have hstep : t.step portOf .follow = t := heq
    right
    rw [hstep]
    refine ⟨rfl, fun hne => ⟨fun hdue => ?_, Iff.rfl⟩⟩
    obtain hb | hz := hb
    · exact hdue hb
    · exact hne hz

theorem Sound.lowers_runOlder (h : t.Sound portOf) (rank : Tasks S → Nat) (k : Nat) (input : LoopInput) :
    Lowers portOf rank t (.runOlder k input) := by
  unfold Lowers
  rw [h.step_runOlder]
  exact .inr ⟨rfl, fun _ => ⟨id, Iff.rfl⟩⟩

/-- Where the follower does not wait for its loop, that is not due. -/
theorem lowers_run_of_awaitsEnd {input : LoopInput} (hs : t.stand.awaitsEnd = false)
    (hrank : rank (t.step portOf (.run input)) = rank t) : Lowers portOf rank t (.run input) := by
  have hstand := (t.run_frame portOf input).2.1
  have hnot := not_blocked hs
  exact .inr ⟨hrank, fun _ => ⟨hnot, iff_of_false (not_blocked (hstand ▸ hs)) hnot⟩⟩

/-- A loop that was asked to end gets on with that until it has. -/
theorem lowers_run_of_asked {input : LoopInput} (hasked : t.Asked true ∨ t.cancelled = true)
    (hsame : t.loopLeft = 0 → rank (t.step portOf (.run input)) = rank t)
    (hlt : t.loopLeft ≠ 0 → rank (t.step portOf (.run input)) < rank t) : Lowers portOf rank t (.run input) := by
  by_cases hz : t.loopLeft = 0
  · have hleft := loopLeft_run portOf hasked input
    rw [hz] at hleft
    refine .inr ⟨hsame hz, fun _ => ⟨fun hb => isAlive_iff.1 hb.2 hz, ?_⟩⟩
    exact blocked_congr (t.run_frame portOf input).2.1 (hleft.trans hz.symm)
  · exact .inl (hlt hz)

/-! ## to the end -/

/-- How far it is to the end that was asked for. -/
def leftToEnd (t : Tasks S) : Nat :=
  match t.stand with
  | .looking _ => 9
  | .closing .. => 6 + t.loopLeft
  | .opening .. => 5
  | .waiting | .holding => 2 + t.loopLeft
  | .leaving => 1 + t.loopLeft
  | .ended => 0

theorem leftToEnd_eq_zero_iff : t.leftToEnd = 0 ↔ t.stand = .ended := by
  unfold leftToEnd
  cases t.stand <;> simp

theorem leftToEnd_le (t : Tasks S) : t.leftToEnd ≤ 9 := by
  have := t.loopLeft_le
  unfold leftToEnd
  cases t.stand <;> simp only <;> omega

theorem leftToEnd_rest {isOpen : Bool} (h : t.stand = .rest isOpen) : t.leftToEnd = 2 + t.loopLeft := by
  unfold leftToEnd
  cases isOpen <;> simp [h, Stand.rest]

theorem leftToEnd_leave (t : Tasks S) : t.leave.leftToEnd = 1 + t.loopLeft := by
  simp only [leftToEnd, leave, loopLeft, Option.map_map]
  rfl

/-- The follower gets nearer to the end unless it is blocked or there. -/
theorem leftToEnd_follow (portOf : S → Option UInt16) (hc : t.cancelled = true) :
    (t.follow portOf).leftToEnd < t.leftToEnd ∨ t.follow portOf = t ∧ (t.Blocked ∨ t.stand = .ended) := by
  have hle := t.loopLeft_le
  rw [follow]
  cases hs : t.stand with
  | looking isOpen =>
    left
    have hlook : t.leftToEnd = 9 := by simp [leftToEnd, hs]
    rw [hlook]
    obtain ⟨-, hl⟩ | ⟨-, -, hl⟩ | ⟨-, l, hcur, hl⟩ := look_cases portOf isOpen t <;> simp only [hl]
    · rw [leftToEnd_rest rfl]
      change 2 + t.loopLeft < 9
      omega
    · simp [leftToEnd]
    · have hsame : t.loopLeft = l.loop.left := by simp [loopLeft, hcur]
      simp only [leftToEnd, loopLeft, Option.map_some, Option.getD_some]
      omega
  | closing url isOpen =>
    simp only
    cases ha : t.isAlive with
    | true => exact .inr ⟨rfl, .inl ⟨by simp [hs, Stand.awaitsEnd], ha⟩⟩
    | false => simp [leftToEnd, hs, loopLeft_of_not_isAlive ha]
  | opening url isOpen =>
    left
    have hopening : t.leftToEnd = 5 := by simp [leftToEnd, hs]
    have hrest := (t.openFeed_frame url isOpen).2.1
    have hle' := (t.openFeed url isOpen).loopLeft_le
    change (t.openFeed url isOpen).leftToEnd < _
    rw [hopening, leftToEnd_rest hrest]
    omega
  | waiting | holding =>
    left
    simp only [hc, if_true, leftToEnd_leave]
    simp [leftToEnd, hs]
  | leaving =>
    simp only
    cases ha : t.isAlive with
    | true => exact .inr ⟨rfl, .inl ⟨by simp [hs, Stand.awaitsEnd], ha⟩⟩
    | false =>
      left
      change 0 < t.leftToEnd
      simp only [leftToEnd, hs]
      omega
  | ended => exact .inr ⟨rfl, .inr rfl⟩

/-- Once the end was asked for every move leads there, whatever else happens. -/
theorem leftToEnd_descends (portOf : S → Option UInt16) :
    Descends portOf leftToEnd (fun t => t.Sound portOf ∧ t.cancelled = true) fun _ => True where
  keeps := by
    intro t m ⟨hsound, hc⟩ _
    refine ⟨hsound.step m, ?_⟩
    cases m with
    | publish value =>
      rw [step]
      split <;> exact hc
    | close => exact hc
    | cancel => rfl
    | follow => exact (t.follow_frame portOf).cancelled.trans hc
    | run input => exact (t.run_frame portOf input).1.cancelled.trans hc
    | runOlder k input => rwa [hsound.step_runOlder]
  lowers := by
    intro t m ⟨hsound, hc⟩ _
    cases m with
    | publish value =>
      rw [Lowers, step]
      split <;> exact .inr ⟨rfl, fun _ => ⟨id, Iff.rfl⟩⟩
    | close | cancel => exact .inr ⟨rfl, fun _ => ⟨id, Iff.rfl⟩⟩
    | runOlder k input => exact hsound.lowers_runOlder _ k input
    | follow =>
      refine lowers_follow ?_
      rw [leftToEnd_eq_zero_iff]
      exact leftToEnd_follow portOf hc
    | run input =>
      have hstand := (t.run_frame portOf input).2.1
      have hleft := loopLeft_run portOf (.inr hc) input
      cases hs : t.stand with
      | looking | opening | ended =>
        refine lowers_run_of_awaitsEnd (by simp [hs, Stand.awaitsEnd]) ?_
        simp only [leftToEnd, hstand, hs]
      | waiting | holding | closing | leaving =>
        refine lowers_run_of_asked (.inr hc) (fun hz => ?_) fun hne => ?_
        · simp only [leftToEnd, hstand, hs, hleft, hz]
        · simp only [leftToEnd, hstand, hs, hleft]
          omega

/-- **Once the end was asked for the follower ends**, after nine turns of its own and of its loop at most. -/
theorem Sound.ends (h : t.Sound portOf) (hc : t.cancelled = true) {blocks : List (List (TaskMove S))}
    (hfair : ∀ b ∈ blocks, Fair b) (hlen : 9 ≤ blocks.length) : (t.run portOf blocks.flatten).stand = .ended := by
  obtain ⟨-, hrank⟩ := (leftToEnd_descends portOf).run_blocks ⟨h, hc⟩ fun b hb => ⟨hfair b hb, fun _ _ => trivial⟩
  have hle := t.leftToEnd_le
  exact leftToEnd_eq_zero_iff.1 (by omega)

/-! ## to rest -/

/-- What is to be done yet for a publication that the follower has not seen. -/
def unseen (t : Tasks S) : Nat := if t.source.notice t.watcher = .changed then 12 else 0

/-- A source that is taken to be open may turn out to be gone, and is looked at once more then. -/
def onceMore (isOpen : Bool) : Nat := if isOpen then 6 else 0

/-- How far it is to rest while nothing is published. -/
def leftToRest (t : Tasks S) : Nat :=
  match t.stand with
  | .looking isOpen => 5 + onceMore isOpen
  | .closing _ isOpen => 2 + t.loopLeft + onceMore isOpen + t.unseen
  | .opening _ isOpen => 1 + onceMore isOpen + t.unseen
  | .waiting => if t.source.notice t.watcher = .closed then 6 else t.unseen
  | .holding | .leaving | .ended => 0

theorem leftToRest_le (t : Tasks S) : t.leftToRest ≤ 22 := by
  have hloop := t.loopLeft_le
  have hunseen : t.unseen ≤ 12 := by unfold unseen; split <;> omega
  have honce : ∀ isOpen, onceMore isOpen ≤ 6 := by decide
  unfold leftToRest
  cases t.stand with
  | looking isOpen | closing _ isOpen | opening _ isOpen =>
    have := honce isOpen
    simp only
    omega
  | waiting => simp only; split <;> omega
  | holding | leaving | ended => simp only; omega

theorem leftToRest_of_rest {isOpen : Bool} (h : t.stand = .rest isOpen) :
    t.leftToRest ≤ onceMore isOpen + t.unseen := by
  unfold leftToRest
  cases isOpen with
  | false => simp [h, Stand.rest]
  | true =>
    simp only [h, Stand.rest, if_true]
    split
    · exact Nat.le_add_right 6 _
    · exact Nat.le_add_left _ _

theorem unseen_subscribe (h : t.watcher = t.source.subscribe) : t.unseen = 0 := by
  simp [unseen, h, Watch.notice_eq_changed_iff]

/-- The follower gets nearer to rest unless it is blocked or there. -/
theorem Sound.leftToRest_follow (h : t.Sound portOf) (hc : t.cancelled = false) :
    (t.follow portOf).leftToRest < t.leftToRest ∨ t.follow portOf = t ∧ (t.Blocked ∨ t.leftToRest = 0) := by
  have hle := t.loopLeft_le
  have hp := h.placed
  rw [Placed] at hp
  rw [Tasks.follow]
  cases hs : t.stand with
  | looking isOpen =>
    left
    have hlook : t.leftToRest = 5 + onceMore isOpen := by simp only [leftToRest, hs]
    rw [hlook]
    obtain ⟨-, hl⟩ | ⟨-, -, hl⟩ | ⟨-, l, hcur, hl⟩ := look_cases portOf isOpen t <;> simp only [hl]
    · refine Nat.lt_of_le_of_lt (leftToRest_of_rest rfl) ?_
      rw [unseen_subscribe rfl]
      omega
    · simp only [leftToRest]
      rw [unseen_subscribe rfl]
      omega
    · have hsame : t.loopLeft = l.loop.left := by simp [loopLeft, hcur]
      simp only [leftToRest]
      rw [unseen_subscribe rfl]
      simp only [loopLeft, Option.map_some, Option.getD_some]
      omega
  | closing url isOpen =>
    simp only
    cases ha : t.isAlive with
    | true => exact .inr ⟨rfl, .inl ⟨by simp [hs, Stand.awaitsEnd], ha⟩⟩
    | false =>
      left
      change 1 + onceMore isOpen + t.unseen < t.leftToRest
      simp only [leftToRest, hs]
      omega
  | opening url isOpen =>
    left
    obtain ⟨hframe, hrest, hwatcher⟩ := t.openFeed_frame url isOpen
    have hunseen : (t.openFeed url isOpen).unseen = t.unseen := by unfold unseen; rw [hframe.source, hwatcher]
    have hopened := leftToRest_of_rest hrest
    have hopening : t.leftToRest = 1 + onceMore isOpen + t.unseen := by simp only [leftToRest, hs]
    change (t.openFeed url isOpen).leftToRest < t.leftToRest
    omega
  | waiting =>
    simp only [hc]
    cases hn : t.source.notice t.watcher with
    | changed => left; simp [leftToRest, unseen, onceMore, hs, hn]
    | closed => left; simp [leftToRest, onceMore, hs, hn]
    | pending => right; simp [leftToRest, unseen, hs, hn]
  | holding => right; simp [hc, leftToRest, hs]
  | leaving =>
    rw [hs, hc] at hp
    cases hp
  | ended =>
    rw [hs, hc] at hp
    cases hp.1

/-- While nothing is published every step leads to rest. -/
theorem leftToRest_descends (portOf : S → Option UInt16) :
    Descends portOf leftToRest (fun t => t.Sound portOf ∧ t.cancelled = false) TaskMove.IsStep where
  keeps := by
    intro t m ⟨hsound, hc⟩ hm
    refine ⟨hsound.step m, ?_⟩
    cases m with
    | publish | close | cancel => exact hm.elim
    | follow => exact (t.follow_frame portOf).cancelled.trans hc
    | run input => exact (t.run_frame portOf input).1.cancelled.trans hc
    | runOlder k input => rwa [hsound.step_runOlder]
  lowers := by
    intro t m ⟨hsound, hc⟩ hm
    cases m with
    | publish | close | cancel => exact hm.elim
    | runOlder k input => exact hsound.lowers_runOlder _ k input
    | follow => exact lowers_follow (hsound.leftToRest_follow hc)
    | run input =>
      obtain ⟨hframe, hstand, hwatcher⟩ := t.run_frame portOf input
      have hunseen : (t.step portOf (.run input)).unseen = t.unseen := by unfold unseen; rw [hframe.source, hwatcher]
      have hp := hsound.placed
      cases hs : t.stand with
      | looking | opening | waiting | holding | ended =>
        refine lowers_run_of_awaitsEnd (by simp [hs, Stand.awaitsEnd]) ?_
        simp only [leftToRest, hstand, hs, hunseen, hframe.source, hwatcher]
      | leaving =>
        rw [Placed, hs, hc] at hp
        cases hp
      | closing url isOpen =>
        rw [Placed, hs] at hp
        have hleft := loopLeft_run portOf (.inl hp.1) input
        refine lowers_run_of_asked (.inl hp.1) (fun hz => ?_) fun hne => ?_
        · simp only [leftToRest, hstand, hs, hleft, hz, hunseen]
        · simp only [leftToRest, hstand, hs, hleft, hunseen]
          omega

theorem Sound.rests_of_leftToRest (h : t.Sound portOf) (hc : t.cancelled = false) (hz : t.leftToRest = 0) :
    t.Rests := by
  have hp := h.placed
  rw [Placed] at hp
  rw [leftToRest] at hz
  cases hs : t.stand <;> rw [hs] at hp <;> simp only [hs] at hz
  case waiting =>
    left
    refine ⟨hs, ?_⟩
    cases hn : t.source.notice t.watcher <;> simp [unseen, hn] at hz ⊢
  case holding => exact .inr hs
  case leaving => exact absurd (hc.symm.trans hp) (by decide)
  case ended => exact absurd (hc.symm.trans hp.1) (by decide)
  case looking => omega
  case closing => omega
  case opening => omega

/-- **Once nothing is published the follower comes to rest**, after 22 turns of its own and of its loop at most. -/
theorem Sound.settles (h : t.Sound portOf) (hc : t.cancelled = false) {blocks : List (List (TaskMove S))}
    (hfair : ∀ b ∈ blocks, Fair b ∧ ∀ m ∈ b, m.IsStep) (hlen : 22 ≤ blocks.length) :
    (t.run portOf blocks.flatten).Rests := by
  obtain ⟨⟨hsound, hcancelled⟩, hrank⟩ := (leftToRest_descends portOf).run_blocks ⟨h, hc⟩ hfair
  have hle := t.leftToRest_le
  exact hsound.rests_of_leftToRest hcancelled (by omega)

end Tasks

end ProxyKeeper.Ingestion

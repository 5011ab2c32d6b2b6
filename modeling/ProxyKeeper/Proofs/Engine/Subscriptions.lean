/-
A subscription to the view of an engine, over whole runs: the engine makes any
moves, its publisher may go away, and the subscription is asked in all of its
ways and made into a stream at any time.

What a reader is told is settled by two things, the watch as it stands and the
view that the reader was handed last (`Reader.lastSeen`). `Reader.Sound` says
so of everything that was ever asked, in its log; it is kept by every
publication (`Sound.later`) and by every request (`Sound.ask`). The rest is
about logs: the versions that are handed out increase, and once the publisher
is gone a reader is handed one more at most.
-/
import Mathlib.Data.List.Induction
import ProxyKeeper.Engine.Instances
import ProxyKeeper.Engine.Profile
import ProxyKeeper.Engine.Subscription
import ProxyKeeper.Proofs.Engine.Run
import ProxyKeeper.Proofs.Lists

namespace ProxyKeeper

variable {S P H V : Type}

/-! ## a watch and what becomes of it -/

/-- The watch `a` became `b`, by publications and perhaps by the end of its publisher. -/
structure Watch.Precedes (a b : Watch V) : Prop where
  version : a.version ≤ b.version
  /-- Nothing becomes of a watch whose publisher is gone. -/
  closed : a.live = false → b = a

namespace Watch.Precedes

variable {a b c : Watch V}

theorem refl (a : Watch V) : a.Precedes a := ⟨Nat.le_refl _, fun _ => rfl⟩

theorem trans (h : a.Precedes b) (h' : b.Precedes c) : a.Precedes c where
  version := Nat.le_trans h.version h'.version
  closed hl := by
    obtain rfl := h.closed hl
    exact h'.closed hl

theorem publish (hl : a.live = true) (v : V) : a.Precedes (a.publish v) where
  version := Nat.le_succ _
  closed hd := absurd (hl.symm.trans hd) (by decide)

theorem close (a : Watch V) : a.Precedes a.close where
  version := Nat.le_refl _
  closed hl := by
    cases a
    cases hl
    rfl

end Watch.Precedes

/-! ## readers -/

/-- A subscription, or the stream that it was made into. -/
inductive Reader (V : Type) where
  | subscription (s : Subscription V)
  | stream (s : ViewStream)

namespace Reader

/-- What can be asked of a reader. -/
inductive Request where
  | changed
  | current
  | latest
  | intoStream
  | next

/-- What a request comes to. -/
inductive Reply (V : Type) where
  | changed (answer : Delivery V)
  | current (view : V)
  | latest (view : V)
  | converted
  | next (answer : Delivery V)

/-- The view that is handed out as a new one. -/
def Reply.delivered? : Reply V → Option V
  | .changed answer | .next answer => answer.item?
  | .current _ | .latest _ | .converted => none

def Reply.changed? : Reply V → Option V
  | .changed answer => answer.item?
  | _ => none

def Reply.next? : Reply V → Option V
  | .next answer => answer.item?
  | _ => none

def Reply.isNext : Reply V → Bool
  | .next _ => true
  | _ => false

theorem Reply.eq_of_changed? {reply : Reply V} {v : V} (h : reply.changed? = some v) :
    reply = .changed (.item v) := by
  rcases reply with (_ | _ | _) | _ | _ | _ | _ <;> cases h
  rfl

theorem Reply.eq_of_next? {reply : Reply V} {v : V} (h : reply.next? = some v) : reply = .next (.item v) := by
  rcases reply with _ | _ | _ | _ | (_ | _ | _) <;> cases h
  rfl

/-- Asks a reader. A stream is only polled, and a subscription never is. -/
def ask (views : Watch V) : Reader V → Request → Reader V × Option (Reply V)
  | .subscription s, .changed => (.subscription (s.changed views).1, some (.changed (s.changed views).2))
  | .subscription s, .current => (.subscription s, some (.current s.current))
  | .subscription s, .latest => (.subscription s, some (.latest (s.latest views)))
  | .subscription _, .intoStream => (.stream .fresh, some .converted)
  | .stream s, .next => (.stream (s.poll views).1, some (.next (s.poll views).2))
  | r, _ => (r, none)

/-- The replies in their order, each with the watch as it stood. -/
abbrev Log (V : Type) := List (Watch V × Reply V)

/-- The view that was handed out last, with its version: until the first, the one at the start. -/
def lastSeen (start : Watch V) (log : Log V) : Nat × V :=
  log.foldl (fun last e => (e.2.delivered?.map fun v => (e.1.version, v)).getD last) (start.version, start.value)

/-- Whether the reader was polled as a stream. -/
def polled (log : Log V) : Bool := log.any (·.2.isNext)

/-- What is new to a reader that was handed the version `seen` last. -/
def news (views : Watch V) (seen : Nat) : Delivery V :=
  if views.version ≠ seen then .item views.value else if views.live then .pending else .closed

/-- The reply is the one that is due after those before it. -/
def Due (start : Watch V) (before : Log V) (views : Watch V) : Reply V → Prop
  | .changed answer => answer = news views (lastSeen start before).1
  | .current v => v = (lastSeen start before).2
  | .latest v => v = views.value
  | .converted => True
  | .next answer => answer = if polled before then news views (lastSeen start before).1 else .item views.value

/-- What the reader knows of its log: which view it was handed last, and whether it was polled as a stream. -/
def Knows (start : Watch V) (log : Log V) : Reader V → Prop
  | .subscription s => (s.watcher.seen, s.current) = lastSeen start log ∧ polled log = false
  | .stream .fresh => polled log = false
  | .stream (.polled watcher) => watcher.seen = (lastSeen start log).1 ∧ polled log = true

structure Sound (start views : Watch V) (r : Reader V) (log : Log V) : Prop where
  started : start.Precedes views
  logged : ∀ e ∈ log, start.Precedes e.1 ∧ e.1.Precedes views
  ordered : log.Pairwise fun e e' => e.1.Precedes e'.1
  knows : r.Knows start log
  due : ∀ before e after, log = before ++ e :: after → Due start before e.1 e.2

variable {start views views' : Watch V} {r : Reader V} {log : Log V}

theorem lastSeen_concat (start : Watch V) (log : Log V) (e : Watch V × Reply V) :
    lastSeen start (log ++ [e]) = (e.2.delivered?.map fun v => (e.1.version, v)).getD (lastSeen start log) := by
  rw [lastSeen, List.foldl_append]
  rfl

theorem polled_concat (log : Log V) (e : Watch V × Reply V) : polled (log ++ [e]) = (polled log || e.2.isNext) := by
  rw [polled, List.any_append, List.any_cons, List.any_nil, Bool.or_false]
  rfl

/-- Whoever is handed the news has seen what there is. -/
theorem lastSeen_news {reply : Reply V} (h : reply.delivered? = (news views (lastSeen start log).1).item?) :
    lastSeen start (log ++ [(views, reply)]) =
      if views.version ≠ (lastSeen start log).1 then (views.version, views.value) else lastSeen start log := by
  rw [lastSeen_concat, h, news]
  split
  · rfl
  · split <;> rfl

theorem changed_eq (s : Subscription V) (views : Watch V) :
    s.changed views =
      (if views.version ≠ s.watcher.seen then ⟨views.value, views.subscribe⟩ else s, news views s.watcher.seen) := by
  by_cases hv : views.version = s.watcher.seen
  · cases hl : views.live <;> simp [Subscription.changed, Watch.notice, news, hv, hl]
  · simp [Subscription.changed, Watch.notice, news, hv]

theorem poll_eq (watcher : Watcher) (views : Watch V) :
    (ViewStream.polled watcher).poll views =
      (.polled (if views.version ≠ watcher.seen then views.subscribe else watcher), news views watcher.seen) := by
  by_cases hv : views.version = watcher.seen
  · cases hl : views.live <;> simp [ViewStream.poll, Watch.notice, news, hv, hl]
  · simp [ViewStream.poll, Watch.notice, news, hv]

/-! ## what is kept -/

theorem Sound.begin (w : Watch V) : Sound w w (.subscription (.start w)) [] where
  started := .refl w
  logged := fun _ he => absurd he List.not_mem_nil
  ordered := .nil
  knows := ⟨rfl, rfl⟩
  due := fun _ _ _ h => by simp at h

/-- A publication, or the end of the publisher, is nothing to a reader until it asks. -/
theorem Sound.later (h : Sound start views r log) (hv : views.Precedes views') : Sound start views' r log :=
  { h with
    started := h.started.trans hv
    logged := fun e he => ⟨(h.logged e he).1, (h.logged e he).2.trans hv⟩ }

/-- One more reply, if it is due and the reader takes note of it. -/
theorem Sound.concat (h : Sound start views r log) (r' : Reader V) {reply : Reply V} (hdue : Due start log views reply)
    (hknows : r'.Knows start (log ++ [(views, reply)])) : Sound start views r' (log ++ [(views, reply)]) where
  started := h.started
  logged e he := by
    rcases List.mem_append.1 he with he | he
    · exact h.logged e he
    · rw [List.mem_singleton.1 he]
      exact ⟨h.started, .refl _⟩
  ordered := by
    rw [List.pairwise_append]
    refine ⟨h.ordered, List.pairwise_singleton _ _, fun e he e' he' => ?_⟩
    rw [List.mem_singleton.1 he']
    exact (h.logged e he).2
  knows := hknows
  due before e after hb := by
    rcases eq_or_of_append_singleton hb with ⟨rfl, rfl⟩ | ⟨rest, hb⟩
    · exact hdue
    · exact h.due before e rest hb

/-- Every request is answered as is due. -/
theorem Sound.ask (h : Sound start views r log) (q : Request) :
    Sound start views (r.ask views q).1 (log ++ (r.ask views q).2.toList.map (views, ·)) := by
  have idle : Sound start views r (log ++ [].map (views, ·)) := by simpa using h
  have hknows := h.knows
  cases r with
  | subscription s =>
    obtain ⟨hlast, hpolled⟩ := hknows
    have hseen : s.watcher.seen = (lastSeen start log).1 := congrArg Prod.fst hlast
    cases q with
    | changed =>
      have hanswer : (s.changed views).2 = news views (lastSeen start log).1 := by rw [changed_eq, hseen]
      have hnews : (Reply.changed (s.changed views).2).delivered? = (news views (lastSeen start log).1).item? :=
        congrArg Delivery.item? hanswer
      refine h.concat _ hanswer ⟨?_, by rw [polled_concat, hpolled]; rfl⟩
      rw [lastSeen_news hnews, changed_eq, hseen, ← hlast]
      split <;> rfl
    | current =>
      exact h.concat _ (congrArg Prod.snd hlast)
        ⟨by rw [lastSeen_concat]; exact hlast, by rw [polled_concat, hpolled]; rfl⟩
    | latest =>
      exact h.concat _ rfl ⟨by rw [lastSeen_concat]; exact hlast, by rw [polled_concat, hpolled]; rfl⟩
    | intoStream =>
      have hfresh : polled (log ++ [(views, .converted)]) = false := by rw [polled_concat, hpolled]; rfl
      exact h.concat (.stream .fresh) trivial hfresh
    | next => exact idle
  | stream s =>
    cases q with
    | changed | current | latest | intoStream => exact idle
    | next =>
      cases s with
      | fresh =>
        have hpolled : polled log = false := hknows
        have hdue : Due start log views (.next (.item views.value)) := by rw [Due, hpolled]; rfl
        refine h.concat (.stream (.polled views.subscribe)) hdue ⟨by rw [lastSeen_concat]; rfl, ?_⟩
        rw [polled_concat, hpolled]
        rfl
      | polled watcher =>
        obtain ⟨hseen, hpolled⟩ := hknows
        have hanswer : ((ViewStream.polled watcher).poll views).2 = news views (lastSeen start log).1 := by
          rw [poll_eq, hseen]
        have hknows : (Reader.stream ((ViewStream.polled watcher).poll views).1).Knows start
            (log ++ [(views, .next ((ViewStream.polled watcher).poll views).2)]) := by
          rw [poll_eq, Knows, lastSeen_news (by rw [hseen]; rfl), polled_concat, hpolled, hseen]
          refine ⟨?_, rfl⟩
          split
          · rfl
          · exact hseen
        exact h.concat _ (by rw [Due, hpolled, hanswer]; rfl) hknows

/-! ## what a log says -/

theorem lastSeen_le_of {n : Nat} (hstart : start.version ≤ n) (hlog : ∀ e ∈ log, e.1.version ≤ n) :
    (lastSeen start log).1 ≤ n := by
  induction log using List.reverseRecOn with
  | nil => exact hstart
  | append_singleton log e ih =>
    rw [lastSeen_concat]
    cases e.2.delivered? with
    | none => exact ih fun e he => hlog e (List.mem_append_left _ he)
    | some v => exact hlog e (by simp)

theorem lastSeen_mono {more : Log V} (h : ∀ e ∈ more, (lastSeen start log).1 ≤ e.1.version) :
    (lastSeen start log).1 ≤ (lastSeen start (log ++ more)).1 := by
  induction more using List.reverseRecOn with
  | nil => exact Nat.le_of_eq (by rw [List.append_nil])
  | append_singleton more e ih =>
    rw [← List.append_assoc, lastSeen_concat]
    cases e.2.delivered? with
    | none => exact ih fun e he => h e (List.mem_append_left _ he)
    | some v => exact h e (by simp)

/-- Asking for something new, in either way. -/
def Reply.isPoll : Reply V → Bool
  | .changed _ | .next _ => true
  | _ => false

section

variable {before mid after : Log V} {e e' : Watch V × Reply V}

theorem Sound.precedes (h : Sound start views r log) (hlog : log = before ++ e :: after) :
    (∀ b ∈ before, b.1.Precedes e.1) ∧ ∀ a ∈ after, e.1.Precedes a.1 := by
  have ho := hlog ▸ h.ordered
  rw [List.pairwise_append, List.pairwise_cons] at ho
  exact ⟨fun b hb => ho.2.2 b hb e List.mem_cons_self, ho.2.1.1⟩

/-- What is delivered is the latest view. -/
theorem Sound.delivered (h : Sound start views r log) (hlog : log = before ++ e :: after) {v : V}
    (hv : e.2.delivered? = some v) : v = e.1.value := by
  have hdue := h.due before e after hlog
  have news_item : ∀ n, (news e.1 n).item? = some v → v = e.1.value := fun n hn => by
    rw [news] at hn
    split at hn
    · exact (Option.some.inj hn).symm
    · split at hn <;> cases hn
  obtain ⟨w, reply⟩ := e
  cases reply with
  | changed answer =>
    have hdue : answer = news w (lastSeen start before).1 := hdue
    subst hdue
    exact news_item _ hv
  | next answer =>
    have hdue : answer = if polled before then news w (lastSeen start before).1 else .item w.value := hdue
    subst hdue
    simp only [Reply.delivered?] at hv
    split at hv
    · exact news_item _ hv
    · exact (Option.some.inj hv).symm
  | current | latest | converted => cases hv

/-- Whoever has asked for news has seen what there was. -/
theorem Sound.lastSeen_poll (h : Sound start views r log) (hlog : log = before ++ e :: after)
    (hpoll : e.2.isPoll = true) : (lastSeen start (before ++ [e])).1 = e.1.version := by
  have hdue := h.due before e after hlog
  have told : e.2.delivered? = (news e.1 (lastSeen start before).1).item? →
      (lastSeen start (before ++ [e])).1 = e.1.version := fun hn => by
    rw [lastSeen_news hn]
    split
    · rfl
    · rename_i hv
      exact (Decidable.not_not.1 hv).symm
  obtain ⟨w, reply⟩ := e
  cases reply with
  | changed answer => exact told (congrArg Delivery.item? hdue)
  | next answer =>
    have hdue : answer = if polled before then news w (lastSeen start before).1 else .item w.value := hdue
    cases hp : polled before with
    | true => exact told (by rw [hdue, hp]; rfl)
    | false =>
      rw [lastSeen_concat, hdue, hp]
      rfl
  | current | latest | converted => cases hpoll

/-- Between two requests for news nothing is handed out that is older than what there was at the first, or newer than
what there is at the second. -/
theorem Sound.lastSeen_between (h : Sound start views r log) (hlog : log = before ++ e :: mid ++ e' :: after)
    (hpoll : e.2.isPoll = true) :
    e.1.version ≤ (lastSeen start (before ++ e :: mid)).1 ∧
      (lastSeen start (before ++ e :: mid)).1 ≤ e'.1.version := by
  have hfirst : log = before ++ e :: (mid ++ e' :: after) := by rw [hlog, List.append_assoc, List.cons_append]
  have hseen := h.lastSeen_poll hfirst hpoll
  refine ⟨?_, lastSeen_le_of ?_ fun b hb => ((h.precedes hlog).1 b hb).version⟩
  · have hmid : ∀ m ∈ mid, (lastSeen start (before ++ [e])).1 ≤ m.1.version := fun m hm => by
      rw [hseen]
      exact ((h.precedes hfirst).2 m (List.mem_append_left _ hm)).version
    have hmono := lastSeen_mono hmid
    rwa [hseen, List.append_assoc, List.singleton_append] at hmono
  · exact (h.logged e' (hlog ▸ by simp)).1.version

/-- What is handed out as news is newer than whatever there was when news was asked for before. -/
theorem Sound.version_lt (h : Sound start views r log) (hlog : log = before ++ e :: mid ++ e' :: after)
    (hpoll : e.2.isPoll = true) {v : V} (hnews : news e'.1 (lastSeen start (before ++ e :: mid)).1 = .item v) :
    e.1.version < e'.1.version := by
  obtain ⟨hle, hge⟩ := h.lastSeen_between hlog hpoll
  rw [news] at hnews
  split at hnews
  · rename_i hne
    exact Nat.lt_of_le_of_ne (Nat.le_trans hle hge) fun he => hne (Nat.le_antisymm (he ▸ hle) hge)
  · split at hnews <;> cases hnews

/-- When the publisher was gone at a request for news, there is none at a later one. -/
theorem Sound.news_closed (h : Sound start views r log) (hlog : log = before ++ e :: mid ++ e' :: after)
    (hpoll : e.2.isPoll = true) (hclosed : e.1.live = false) :
    news e'.1 (lastSeen start (before ++ e :: mid)).1 = .closed := by
  have hfirst : log = before ++ e :: (mid ++ e' :: after) := by rw [hlog, List.append_assoc, List.cons_append]
  have hsame : e'.1 = e.1 := ((h.precedes hfirst).2 e' (by simp)).closed hclosed
  obtain ⟨hle, hge⟩ := h.lastSeen_between hlog hpoll
  rw [hsame] at hge ⊢
  have hseen : e.1.version = (lastSeen start (before ++ e :: mid)).1 := Nat.le_antisymm hle hge
  rw [news, if_neg (Decidable.not_not.2 hseen), hclosed]
  rfl

/-- A stream that was polled before is handed what is new. -/
theorem Sound.next_again {w w' : Watch V} {answer answer' : Delivery V} (h : Sound start views r log)
    (hlog : log = before ++ (w, .next answer) :: mid ++ (w', .next answer') :: after) :
    answer' = news w' (lastSeen start (before ++ (w, .next answer) :: mid)).1 := by
  have hanswer : answer' = if polled (before ++ (w, .next answer) :: mid) then
      news w' (lastSeen start (before ++ (w, .next answer) :: mid)).1 else .item w'.value := h.due _ _ after hlog
  have hpolled : polled (before ++ (w, .next answer) :: mid) = true := by simp [polled, Reply.isNext]
  rwa [if_pos hpolled] at hanswer

/-- What is handed out has the number of the watch, if views are numbered by their publications. -/
theorem Sound.generation_lastSeen (h : Sound start views r log) (hlog : log = before ++ after) {generation : V → Nat}
    (hstart : generation start.value = start.version) (hnumber : ∀ e ∈ log, generation e.1.value = e.1.version) :
    generation (lastSeen start before).2 = (lastSeen start before).1 := by
  induction before using List.reverseRecOn generalizing after with
  | nil => exact hstart
  | append_singleton before e ih =>
    have hsplit : log = before ++ e :: after := by rw [hlog, List.append_assoc, List.singleton_append]
    rw [lastSeen_concat]
    cases hv : e.2.delivered? with
    | none => exact ih hsplit
    | some v =>
      obtain rfl := h.delivered hsplit hv
      exact hnumber e (hsplit ▸ by simp)

end

end Reader

/-! ## an engine and one reader of its view -/

/-- The views of a trade are numbered by its passes. -/
structure Trade.Numbers (trade : Trade S P H V) (generation : V → Nat) : Prop where
  initial : generation trade.initialView = 0
  view : ∀ n held, generation (trade.view n held) = n

/-- An engine with one reader of its view, and what the reader was told. -/
structure Scene (S P H V : Type) where
  world : World S P H V
  reader : Reader V
  log : Reader.Log V

namespace Scene

inductive Act (S : Type) where
  | engine (m : Move S)
  /-- The publisher is let go of. -/
  | release
  | ask (q : Reader.Request)

/-- A subscription to the view as it stands. -/
def subscribe (w : World S P H V) : Scene S P H V := ⟨w, .subscription (.start w.engine.view), []⟩

/-- An engine that is gone makes no moves. -/
def step (trade : Trade S P H V) (factory : Factory P) (s : Scene S P H V) : Act S → Scene S P H V
  | .engine m => if s.world.engine.view.live then { s with world := s.world.step trade factory m } else s
  | .release => { s with world := { s.world with engine := s.world.engine.release } }
  | .ask q =>
    let views := s.world.engine.view
    { s with
      reader := (s.reader.ask views q).1
      log := s.log ++ (s.reader.ask views q).2.toList.map (views, ·) }

def run (trade : Trade S P H V) (factory : Factory P) (acts : List (Act S)) (s : Scene S P H V) : Scene S P H V :=
  acts.foldl (step trade factory) s

variable {trade : Trade S P H V} {factory : Factory P} {generation : V → Nat} {start : Watch V}

/-- The view has the number of its publication, and the next pass publishes the next one. -/
def Numbered (generation : V → Nat) (r : Record P H V) : Prop :=
  generation r.view.value = r.view.version ∧ r.view.version = r.generation

theorem Numbered.pass (hn : trade.Numbers generation) {r : Record P H V} (h : Numbered generation r)
    (wanted : Option S) : Numbered generation (r.pass trade factory wanted) := by
  refine ⟨(hn.view _ _).trans (congrArg (· + 1) h.2).symm, congrArg (· + 1) h.2⟩

/-- What the moves of an engine do to its view: they publish, and go on numbering. -/
theorem step_engine (factory : Factory P) (hn : trade.Numbers generation) {w : World S P H V}
    (h : Numbered generation w.engine.record) (hl : w.engine.view.live = true) (m : Move S) :
    Numbered generation (w.step trade factory m).engine.record ∧
      w.engine.view.Precedes (w.step trade factory m).engine.view := by
  let I (r : Record P H V) : Prop := Numbered generation r ∧ r.view.live = true ∧ w.engine.view.Precedes r.view
  have hkeeps : I (w.step trade factory m).engine.record := by
    rw [World.record_step]
    refine Record.foldl_keeps trade factory (fun r wanted hr => ?_) ⟨h, hl, .refl _⟩ _
    obtain ⟨hnumber, hlive, hp⟩ := hr
    exact ⟨hnumber.pass hn wanted, hlive, hp.trans (.publish hlive _)⟩
  exact ⟨hkeeps.1, hkeeps.2.2⟩

structure Sound (generation : V → Nat) (start : Watch V) (s : Scene S P H V) : Prop where
  numbered : Numbered generation s.world.engine.record
  logged : ∀ e ∈ s.log, generation e.1.value = e.1.version
  reader : Reader.Sound start s.world.engine.view s.reader s.log

theorem Sound.step (hn : trade.Numbers generation) {s : Scene S P H V} (h : s.Sound generation start) (act : Act S) :
    (s.step trade factory act).Sound generation start := by
  cases act with
  | engine m =>
    simp only [Scene.step]
    split
    · rename_i hl
      obtain ⟨hnumber, hp⟩ := step_engine factory hn h.numbered hl m
      exact ⟨hnumber, h.logged, h.reader.later hp⟩
    · exact h
  | release =>
    have hp : s.world.engine.view.Precedes s.world.engine.release.view := by
      rw [Engine.release]
      split
      · exact .close _
      · exact .refl _
    have hnumber : Numbered generation s.world.engine.release.record := by
      rw [Engine.release]
      split <;> exact h.numbered
    exact ⟨hnumber, h.logged, h.reader.later hp⟩
  | ask q =>
    refine ⟨h.numbered, fun e he => ?_, h.reader.ask q⟩
    rcases List.mem_append.1 he with he | he
    · exact h.logged e he
    · obtain ⟨reply, -, rfl⟩ := List.mem_map.1 he
      exact h.numbered.1

theorem Sound.run (factory : Factory P) (hn : trade.Numbers generation) {s : Scene S P H V}
    (h : s.Sound generation start) (acts : List (Act S)) : (s.run trade factory acts).Sound generation start :=
  List.foldlRecOn _ _ h fun _ h act _ => h.step hn act

theorem sound_subscribe (factory : Factory P) (hn : trade.Numbers generation) (source : Watch S)
    (moves : List (Move S)) :
    let w := World.run trade factory moves (.create trade source)
    (subscribe w).Sound generation w.engine.view where
  numbered := World.record_induction trade factory ⟨hn.initial, rfl⟩ (fun _ wanted h => h.pass hn wanted) source moves
  logged := fun _ he => absurd he List.not_mem_nil
  reader := .begin _

end Scene

/-! ## what a reader observes -/

open Reader in
/-- What is in the log of a reader that began when the watch stood at `start`. `lastSeen` is the view that was handed
out last, with its version. -/
structure Observes (generation : V → Nat) (start : Watch V) (log : Reader.Log V) : Prop where
  /-- Views are numbered by their publications. -/
  numbered : generation start.value = start.version ∧ ∀ e ∈ log, generation e.1.value = e.1.version
  changed : ∀ before views answer after, log = before ++ (views, .changed answer) :: after →
    answer =
      if views.version ≠ (lastSeen start before).1 then .item views.value
      else if views.live then .pending else .closed
  current : ∀ before views v after, log = before ++ (views, .current v) :: after →
    v = (lastSeen start before).2 ∧ generation v ≤ generation views.value
  latest : ∀ before views v after, log = before ++ (views, .latest v) :: after → v = views.value
  /-- The first poll of a stream is handed the latest view in any case. -/
  next : ∀ before views answer after, log = before ++ (views, .next answer) :: after →
    answer =
      if polled before = false ∨ views.version ≠ (lastSeen start before).1 then .item views.value
      else if views.live then .pending else .closed
  increasing : (log.filterMap (·.2.changed?)).Pairwise (generation · < generation ·)
  streamed : (log.filterMap (·.2.next?)).Pairwise (generation · < generation ·)
  ordered : (log.filterMap (·.2.delivered?)).Pairwise (generation · ≤ generation ·)
  /-- A subscription that is asked once after the end of the publisher hears of nothing any more. -/
  closed : ∀ before views answer after, log = before ++ (views, .changed answer) :: after → views.live = false →
    ∀ e ∈ after, ∀ later, e.2 = .changed later → later = .closed
  streamClosed : ∀ before views answer after, log = before ++ (views, .next answer) :: after → views.live = false →
    ∀ e ∈ after, ∀ later, e.2 = .next later → later = .closed

theorem ordered_of_cuts {α : Type} {R : α → α → Prop} {l : List α}
    (h : ∀ before a mid b after, l = before ++ a :: mid ++ b :: after → R a b) : l.Pairwise R := by
  induction l with
  | nil => exact .nil
  | cons a rest ih =>
    refine .cons (fun b hb => ?_) (ih fun before c mid d after hl => h (a :: before) c mid d after (by rw [hl]; rfl))
    obtain ⟨mid, after, rfl⟩ := List.append_of_mem hb
    exact h [] a mid b after rfl

namespace Scene

open Reader

variable {generation : V → Nat} {start : Watch V}

theorem Sound.observes {s : Scene S P H V} (h : s.Sound generation start)
    (hstart : generation start.value = start.version) : Observes generation start s.log := by
  have hr := h.reader
  have number : ∀ {before after : Log V} {e : Watch V × Reply V} {v : V}, s.log = before ++ e :: after →
      e.2.delivered? = some v → generation v = e.1.version := fun hlog hv => by
    obtain rfl := hr.delivered hlog hv
    exact h.logged _ (hlog ▸ by simp)
  -- A view that was handed out as news is newer than any view from an earlier request for news.
  have newer : ∀ {before mid after : Log V} {e e' : Watch V × Reply V} {v v' : V},
      s.log = before ++ e :: mid ++ e' :: after → e.2.isPoll = true → e.2.delivered? = some v →
      e'.2.delivered? = some v' → news e'.1 (lastSeen start (before ++ e :: mid)).1 = .item v' →
      generation v < generation v' := fun {before mid after e e'} _ _ hlog hpoll hv hv' hnews => by
    have hfirst : s.log = before ++ e :: (mid ++ e' :: after) := by rw [hlog, List.append_assoc, List.cons_append]
    rw [number hfirst hv, number hlog hv']
    exact hr.version_lt hlog hpoll hnews
  refine
    { numbered := ⟨hstart, h.logged⟩
      changed := fun before views answer after hlog => hr.due before _ after hlog
      latest := fun before views v after hlog => hr.due before _ after hlog
      current := ?current, next := ?next, increasing := ?increasing, streamed := ?streamed, ordered := ?ordered
      closed := ?closed, streamClosed := ?streamClosed }
  case current =>
    intro before views v after hlog
    have hv : v = (lastSeen start before).2 := hr.due before _ after hlog
    refine ⟨hv, ?_⟩
    have hviews : generation views.value = views.version := h.logged (views, .current v) (hlog ▸ by simp)
    rw [hv, hr.generation_lastSeen hlog hstart h.logged, hviews]
    exact lastSeen_le_of (hr.logged (views, .current v) (hlog ▸ by simp)).1.version
      fun b hb => ((hr.precedes hlog).1 b hb).version
  case next =>
    intro before views answer after hlog
    have hanswer : answer = if polled before then news views (lastSeen start before).1 else .item views.value :=
      hr.due before _ after hlog
    cases hp : polled before with
    | false => simpa [hp] using hanswer
    | true => simpa [hp, news] using hanswer
  case increasing =>
    refine List.pairwise_filterMap.2 (ordered_of_cuts fun before e mid e' after hlog v hv v' hv' => ?_)
    obtain ⟨views, reply⟩ := e
    obtain ⟨views', reply'⟩ := e'
    obtain rfl := Reply.eq_of_changed? hv
    obtain rfl := Reply.eq_of_changed? hv'
    have hnews : .item v' = news views' (lastSeen start (before ++ (views, .changed (.item v)) :: mid)).1 :=
      hr.due _ _ after hlog
    exact newer hlog rfl rfl rfl hnews.symm
  case streamed =>
    refine List.pairwise_filterMap.2 (ordered_of_cuts fun before e mid e' after hlog v hv v' hv' => ?_)
    obtain ⟨views, reply⟩ := e
    obtain ⟨views', reply'⟩ := e'
    obtain rfl := Reply.eq_of_next? hv
    obtain rfl := Reply.eq_of_next? hv'
    exact newer hlog rfl rfl rfl (hr.next_again hlog).symm
  case ordered =>
    refine List.pairwise_filterMap.2 (ordered_of_cuts fun before e mid e' after hlog v hv v' hv' => ?_)
    have hfirst : s.log = before ++ e :: (mid ++ e' :: after) := by rw [hlog, List.append_assoc, List.cons_append]
    rw [number hfirst hv, number hlog hv']
    exact ((hr.precedes hfirst).2 e' (by simp)).version
  case closed =>
    intro before views answer after hlog hclosed e he later hlater
    obtain ⟨mid, rest, rfl⟩ := List.append_of_mem he
    obtain ⟨views', reply⟩ := e
    obtain rfl : reply = .changed later := hlater
    have hcut : s.log = before ++ (views, .changed answer) :: mid ++ (views', .changed later) :: rest := by
      rw [hlog, List.append_assoc, List.cons_append]
    have hlater : later = news views' (lastSeen start (before ++ (views, .changed answer) :: mid)).1 :=
      hr.due _ _ rest hcut
    rw [hlater, hr.news_closed hcut rfl hclosed]
  case streamClosed =>
    intro before views answer after hlog hclosed e he later hlater
    obtain ⟨mid, rest, rfl⟩ := List.append_of_mem he
    obtain ⟨views', reply⟩ := e
    obtain rfl : reply = .next later := hlater
    have hcut : s.log = before ++ (views, .next answer) :: mid ++ (views', .next later) :: rest := by
      rw [hlog, List.append_assoc, List.cons_append]
    rw [hr.next_again hcut, hr.news_closed hcut rfl hclosed]

end Scene

theorem InstanceEngine.numbers : trade.Numbers InstanceView.generation := ⟨rfl, fun _ _ => rfl⟩

theorem ProfileEngine.numbers : trade.Numbers ProfileView.generation := ⟨rfl, fun _ _ => rfl⟩

/-- **A reader of the view of an engine.** The engine made any moves before the reader subscribed. From then on it makes
any moves, until its publisher is let go of, and the reader asks anything at any time and is made into a stream at any
time: what is asked between is answered as `Observes` says. A stream that is made after the end of the publisher is
handed the last view once, as every stream is at its first poll. -/
theorem readers_follow_views :
    (∀ factory source moves acts,
      let w := World.run InstanceEngine.trade factory moves (.create InstanceEngine.trade source)
      Observes InstanceView.generation w.engine.view
        (Scene.run InstanceEngine.trade factory acts (.subscribe w)).log) ∧
    ∀ factory source moves acts,
      let w := World.run ProfileEngine.trade factory moves (.create ProfileEngine.trade source)
      Observes ProfileView.generation w.engine.view
        (Scene.run ProfileEngine.trade factory acts (.subscribe w)).log := by
  constructor
  · intro factory source moves acts w
    have hs := Scene.sound_subscribe factory InstanceEngine.numbers source moves
    exact (hs.run factory InstanceEngine.numbers acts).observes hs.numbered.1
  · intro factory source moves acts w
    have hs := Scene.sound_subscribe factory ProfileEngine.numbers source moves
    exact (hs.run factory ProfileEngine.numbers acts).observes hs.numbered.1

end ProxyKeeper

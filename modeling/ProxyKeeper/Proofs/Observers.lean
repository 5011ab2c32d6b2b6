/-
The two observers of an engine's view, the coordinator of the service and
the ingestion of events.

Both wait for the next view, so they lag behind by publications that they
have not looked at. `ObserverTask.Tracks` is what they keep up in spite of
that: one that has seen the latest version fits the latest view. A
publication keeps it (`Tracks.publish`), and it is all that is to be known
of an observer with nothing left to look at (`Tracks.of_not_isDue`).
-/
import ProxyKeeper.Ingestion
import ProxyKeeper.Proofs.Watch

namespace ProxyKeeper

variable {V : Type}

namespace ObserverTask

/-- Whether there is a view to look at. -/
def isDue (views : Watch V) : ObserverTask → Bool
  | .ready => true
  | .waiting watcher => views.notice watcher = .changed
  | .holding | .ended => false

/-- What an observer has made of the views it has seen: it fits the latest, once it has seen that. -/
def Tracks (fits : V → Prop) (views : Watch V) : ObserverTask → Prop
  | .ready => True
  | .waiting watcher => watcher.seen ≤ views.version ∧ (watcher.seen = views.version → fits views.value)
  | .holding | .ended => False

variable {fits : V → Prop} {views : Watch V} {task : ObserverTask}

theorem Tracks.publish (h : task.Tracks fits views) (v : V) : task.Tracks fits (views.publish v) := by
  cases task with
  | ready => trivial
  | waiting watcher =>
    refine ⟨Nat.le_succ_of_le h.1, fun hv => ?_⟩
    have := h.1
    rw [Watch.version_publish] at hv
    omega
  | holding | ended => exact h

theorem Tracks.of_not_isDue (h : task.Tracks fits views) (hd : task.isDue views = false) : fits views.value := by
  cases task with
  | ready => cases hd
  | waiting watcher =>
    simp only [isDue, decide_eq_false_iff_not, Watch.notice_eq_changed_iff, ne_eq, Decidable.not_not] at hd
    exact h.2 hd.symm
  | holding | ended => exact h.elim

theorem tracks_subscribe (h : fits views.value) : (waiting views.subscribe).Tracks fits views :=
  ⟨Nat.le_refl _, fun _ => h⟩

theorem isDue_subscribe (views : Watch V) : (waiting views.subscribe).isDue views = false := by
  simp [isDue, Watch.notice_eq_changed_iff]

end ObserverTask

/-! ## the coordinator -/

namespace Coordinator

variable [EngineView V] {views : Watch V}

/-- What has become of the service, by the calls: started once more than stopped if it is up. -/
def Balanced (c : Coordinator) : Prop :=
  c.calls.count .startService = c.calls.count .stopService + c.serviceUp.toNat

/-- The service is up if the view is running. -/
def Tracks (views : Watch V) (c : Coordinator) : Prop :=
  c.task.Tracks (fun v => c.serviceUp = EngineView.isRunning v) views

theorem settle_eq (hl : views.live = true) (c : Coordinator) :
    c.settle views = if c.task.isDue views then c.observeAndWait views else c := by
  rw [settle]
  cases c.task with
  | ready => rfl
  | waiting watcher =>
    simp only [ObserverTask.isDue, decide_eq_true_eq]
    split
    · rename_i hn; rw [if_pos hn]
    · rename_i hn; rw [if_neg (by rw [hn]; decide)]
    · rename_i hn
      exact absurd (hl.symm.trans (Watch.live_of_notice_closed hn)) (by decide)
  | holding | ended => rfl

theorem balanced_observe {c : Coordinator} (h : c.Balanced) (v : V) : (c.observe v).Balanced := by
  have reports : ∀ (ms : List String) (call : HookCall), (∀ m, call ≠ .reportFailure m) →
      (ms.map HookCall.reportFailure).count call = 0 := by
    intro ms call hcall
    refine List.count_eq_zero.mpr fun hm => ?_
    obtain ⟨m, -, hm⟩ := List.mem_map.mp hm
    exact hcall m hm.symm
  simp only [Balanced, observe, List.count_append, reports _ .startService (by simp),
    reports _ .stopService (by simp)] at h ⊢
  cases hup : c.serviceUp <;> cases hrun : EngineView.isRunning v <;> simp [hup, serviceCalls] at h ⊢ <;> omega

theorem calls_observe (v : V) (c : Coordinator) : c.calls <+: (c.observe v).calls := by
  simp only [observe, List.append_assoc]
  exact List.prefix_append _ _

theorem tracks_settle (hl : views.live = true) {c : Coordinator} (h : c.Tracks views) :
    (c.settle views).Tracks views ∧ (c.settle views).task.isDue views = false := by
  rw [settle_eq hl]
  split
  · simp only [Tracks, observeAndWait, hl, if_true]
    exact ⟨ObserverTask.tracks_subscribe rfl, ObserverTask.isDue_subscribe views⟩
  · rename_i hd
    exact ⟨h, by simpa using hd⟩

theorem balanced_settle (hl : views.live = true) {c : Coordinator} (h : c.Balanced) :
    (c.settle views).Balanced := by
  rw [settle_eq hl]
  split
  · exact balanced_observe h views.value
  · exact h

theorem calls_settle (hl : views.live = true) (c : Coordinator) : c.calls <+: (c.settle views).calls := by
  rw [settle_eq hl]
  split
  · exact calls_observe views.value c
  · exact List.prefix_refl _

end Coordinator

/-! ## the ingestion -/

namespace Feed.Loop

theorem url_settle (b : Backoff) (now : Nat) (peer : Url → Handshake) (l : Loop) (s : Sink) :
    (l.settle b now peer s).1.url = l.url := by
  have answered : ∀ r : Loop × Sink, r.1.url = l.url →
      (if r.1.stage = .connecting then r.1.answer b now (peer r.1.url) r.2 else r).1.url = l.url := by
    intro r hr
    split
    · cases peer r.1.url <;> exact hr
    · exact hr
  refine answered _ ?_
  cases hs : l.stage with
  | fresh | connecting | streaming | ended => rfl
  | waiting due =>
    simp only [wake, hs]
    split <;> rfl

theorem url_frame (b : Backoff) (now : Nat) (f : Frame) (l : Loop) (s : Sink) :
    (l.frame b now f s).1.url = l.url := by
  rw [frame]
  split
  · rfl
  · split
    · split <;> rfl
    · split <;> rfl

theorem url_frames (b : Backoff) (now : Nat) (fs : List Frame) (l : Loop) (s : Sink) :
    (l.frames b now fs s).1.url = l.url := by
  rw [frames]
  induction fs generalizing l s with
  | nil => rfl
  | cons f rest ih => rw [List.foldl_cons, ih, url_frame]

end Feed.Loop

namespace Ingestion

open Feed

/-- The address at which there is a loop. -/
def address (i : Ingestion) : Option Url := i.loop.map (·.url)

/-- The address for a port, if there is a port and it gives one that can be used. -/
def addressOf (endpoint : Endpoint) (port : Option UInt16) : Option Url :=
  port.bind fun p => (endpoint.urlFor p).toOption

theorem wanted_eq (port : Option UInt16) (i : Ingestion) :
    (i.wanted port).1 = addressOf i.settings.endpoint port := by
  cases port with
  | none => rfl
  | some p =>
    simp only [wanted, addressOf, Option.bind_some]
    cases i.settings.endpoint.urlFor p <;> rfl

theorem address_follow (port : Option UInt16) (i : Ingestion) :
    (i.follow port).address = addressOf i.settings.endpoint port := by
  rw [← wanted_eq, follow]
  dsimp only
  split
  · assumption
  · cases (i.wanted port).1 <;> rfl

@[simp] theorem settings_follow (port : Option UInt16) (i : Ingestion) :
    (i.follow port).settings = i.settings := by
  rw [follow]
  dsimp only
  split <;> rfl

variable {portOf : V → Option UInt16} {views : Watch V}

/-- The loop is at the address of the view's port. -/
def Tracks (portOf : V → Option UInt16) (views : Watch V) (i : Ingestion) : Prop :=
  i.task.Tracks (fun v => i.address = addressOf i.settings.endpoint (portOf v)) views

theorem settleTask_eq (hl : views.live = true) (i : Ingestion) :
    i.settleTask portOf views = if i.task.isDue views then i.followAndWait portOf views else i := by
  rw [settleTask]
  cases i.task with
  | ready => rfl
  | waiting watcher =>
    simp only [ObserverTask.isDue, decide_eq_true_eq]
    split
    · rename_i hn; rw [if_pos hn]
    · rename_i hn; rw [if_neg (by rw [hn]; decide)]
    · rename_i hn
      exact absurd (hl.symm.trans (Watch.live_of_notice_closed hn)) (by decide)
  | holding | ended => rfl

@[simp] theorem settings_settleTask (portOf : V → Option UInt16) (views : Watch V) (i : Ingestion) :
    (i.settleTask portOf views).settings = i.settings := by
  have looked : (i.followAndWait portOf views).settings = i.settings := by
    rw [followAndWait]
    dsimp only
    split <;> simp
  rw [settleTask]
  split
  · exact looked
  · split
    · exact looked
    · rfl
    · exact settings_follow _ i
  · rfl
  · rfl

theorem tracks_settleTask (hl : views.live = true) {i : Ingestion} (h : i.Tracks portOf views) :
    (i.settleTask portOf views).Tracks portOf views ∧
      (i.settleTask portOf views).task.isDue views = false := by
  rw [settleTask_eq hl]
  split
  · simp only [Tracks, followAndWait, hl, if_true]
    refine ⟨ObserverTask.tracks_subscribe ?_, ObserverTask.isDue_subscribe views⟩
    exact (address_follow _ i).trans (by rw [settings_follow])
  · rename_i hd
    exact ⟨h, by simpa using hd⟩

/-- A step of the loop stays at its address. -/
theorem withLoop_frame {step : Loop → Sink → Loop × Sink} (hstep : ∀ l s, (step l s).1.url = l.url)
    (i : Ingestion) :
    (i.withLoop step).address = i.address ∧ (i.withLoop step).task = i.task ∧
      (i.withLoop step).settings = i.settings := by
  rw [withLoop, address, address]
  split
  · rename_i h
    exact ⟨by rw [h], rfl, rfl⟩
  · rename_i l h
    exact ⟨by rw [h]; exact congrArg some (hstep l i.sink), rfl, rfl⟩

theorem tracks_withLoop {step : Loop → Sink → Loop × Sink} (hstep : ∀ l s, (step l s).1.url = l.url)
    {i : Ingestion} (h : i.Tracks portOf views) : (i.withLoop step).Tracks portOf views := by
  obtain ⟨ha, ht, hs⟩ := withLoop_frame hstep i
  rw [Tracks, ha, ht, hs]
  exact h

end Ingestion

end ProxyKeeper

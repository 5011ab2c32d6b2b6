/-
A coordinator over its whole life, beside the views that it observes: views
are published, the publisher goes, the end of the coordinator is asked for,
and its task is let run, in any order.

Only the views that the task looks at count. `Told` is the invariant that
ties the log of calls to them: what was called is what each look called for,
given the look before it (`callsOf`), and in the end the service is stopped
if it was up. So starts and stops take turns whatever is published
(`TakesTurns`), and whoever knows the looks knows the calls.

Closing the publisher changes where the task waits and nothing else
(`Alike`). A task that waits fits the latest view unless it has one left to
look at (`Fits`); that is kept through the end of the publisher, because a
task is told of the end only after it has seen the last view.
-/
import ProxyKeeper.Proofs.Observers

namespace ProxyKeeper

/-! ## calls -/

/-- Calls in which starts and stops take turns, from a service that is down or up to one that is down or up. -/
inductive TakesTurns : Bool → List HookCall → Bool → Prop
  | nil {up} : TakesTurns up [] up
  | start {calls up} : TakesTurns true calls up → TakesTurns false (.startService :: calls) up
  | stop {calls up} : TakesTurns false calls up → TakesTurns true (.stopService :: calls) up
  | report {isUp message calls up} : TakesTurns isUp calls up → TakesTurns isUp (.reportFailure message :: calls) up

namespace TakesTurns

variable {isUp between up : Bool} {calls rest : List HookCall}

theorem append (h : TakesTurns isUp calls between) (hr : TakesTurns between rest up) :
    TakesTurns isUp (calls ++ rest) up := by
  induction h with
  | nil => exact hr
  | start _ ih => exact .start (ih hr)
  | stop _ ih => exact .stop (ih hr)
  | report _ ih => exact .report (ih hr)

theorem serviceCalls (isUp shouldRun : Bool) : TakesTurns isUp (Coordinator.serviceCalls isUp shouldRun) shouldRun := by
  cases isUp <;> cases shouldRun
  · exact .nil
  · exact .start .nil
  · exact .stop .nil
  · exact .nil

theorem reports (up : Bool) (messages : List String) : TakesTurns up (messages.map .reportFailure) up := by
  induction messages with
  | nil => exact .nil
  | cons m rest ih => exact .report ih

/-- Every stop has its start; one start is left over while the service is up. -/
theorem count (h : TakesTurns isUp calls up) :
    calls.count .startService + isUp.toNat = calls.count .stopService + up.toNat := by
  induction h with
  | nil => simp
  | start _ ih | stop _ ih => simp at ih ⊢; omega
  | report _ ih => simpa [List.count_cons] using ih

end TakesTurns

namespace Coordinator

variable {V : Type} [EngineView V]

/-- Whether the service ought to be up after the last of some views. -/
def shouldRun (seen : List V) : Bool := seen.getLast?.any EngineView.isRunning

/-- The failures of the last of some views. -/
def known (seen : List V) : List String := (seen.getLast?.map EngineView.failures).getD []

/-- The failures of a view that those before it did not have. -/
def fresh (before : List V) (v : V) : List String :=
  (EngineView.failures v).filter fun m => !(known before).contains m

/-- The calls for a view that is looked at after others: first the service, then the failures that are new. -/
def callsFor (before : List V) (v : V) : List HookCall :=
  serviceCalls (shouldRun before) (EngineView.isRunning v) ++ (fresh before v).map .reportFailure

/-- The calls for views that are looked at one after the other. -/
def callsOf (before : List V) : List V → List HookCall
  | [] => []
  | v :: rest => callsFor before v ++ callsOf (before ++ [v]) rest

theorem length_serviceCalls_le (isUp shouldRun : Bool) : (serviceCalls isUp shouldRun).length ≤ 1 := by
  cases isUp <;> cases shouldRun <;> decide

theorem callsOf_append (before a b : List V) :
    callsOf before (a ++ b) = callsOf before a ++ callsOf (before ++ a) b := by
  induction a generalizing before with
  | nil => simp [callsOf]
  | cons v rest ih => simp [callsOf, ih, List.append_assoc]

@[simp] theorem shouldRun_concat (seen : List V) (v : V) : shouldRun (seen ++ [v]) = EngineView.isRunning v := by
  simp [shouldRun]

theorem takesTurns_callsOf (before seen : List V) :
    TakesTurns (shouldRun before) (callsOf before seen) (shouldRun (before ++ seen)) := by
  induction seen generalizing before with
  | nil =>
    rw [List.append_nil]
    exact .nil
  | cons v rest ih =>
    have look : TakesTurns (shouldRun before) (callsFor before v) (shouldRun (before ++ [v])) := by
      rw [shouldRun_concat]
      exact (TakesTurns.serviceCalls _ _).append (TakesTurns.reports _ _)
    have h := look.append (ih (before ++ [v]))
    rwa [List.append_assoc] at h

/-! ## letting the task run -/

/-- All that letting the task run can do: a look, nothing, or noticing that the publisher is gone. -/
theorem settle_cases (views : Watch V) (c : Coordinator) :
    (c.task.isDue views = true ∧ c.settle views = c.observeAndWait views) ∨
      c.task.isDue views = false ∧
        (c.settle views = c ∧ (views.live = true ∨ c.task = .holding ∨ c.task = .ended) ∨
          (∃ watcher, c.task = .waiting watcher ∧ views.version = watcher.seen) ∧ views.live = false ∧
            c.settle views = { c with task := .holding }) := by
  cases ht : c.task with
  | ready => exact .inl ⟨rfl, by simp only [settle, ht]⟩
  | holding => exact .inr ⟨rfl, .inl ⟨by simp only [settle, ht], .inr (.inl rfl)⟩⟩
  | ended => exact .inr ⟨rfl, .inl ⟨by simp only [settle, ht], .inr (.inr rfl)⟩⟩
  | waiting watcher =>
    simp only [ObserverTask.isDue, settle, ht]
    by_cases hv : views.version = watcher.seen
    · rw [Watch.notice_of_seen hv]
      cases hl : views.live with
      | true => exact .inr ⟨rfl, .inl ⟨rfl, .inl rfl⟩⟩
      | false => exact .inr ⟨rfl, .inr ⟨⟨watcher, rfl, hv⟩, rfl, rfl⟩⟩
    · rw [Watch.notice_eq_changed_iff.mpr hv]
      exact .inl ⟨rfl, rfl⟩

/-- The end of a task that has not ended: a look if it has never looked, and the service is stopped. -/
theorem shutdown_cases (views : Watch V) (c : Coordinator) :
    (c.task = .ended ∧ c.shutdown views = c) ∨
      c.task ≠ .ended ∧ ∃ d, (c.task = .ready ∧ d = c.observe views.value ∨ c.task ≠ .ready ∧ d = c) ∧
        c.shutdown views =
          { d with task := .ended, serviceUp := false, calls := d.calls ++ serviceCalls d.serviceUp false } := by
  cases ht : c.task with
  | ended => exact .inl ⟨rfl, by simp only [shutdown, ht]⟩
  | ready => exact .inr ⟨by simp, _, .inl ⟨rfl, rfl⟩, by simp only [shutdown, ht, if_true]⟩
  | waiting watcher | holding => exact .inr ⟨by simp, c, .inr ⟨by simp, rfl⟩, by simp [shutdown, ht]⟩

theorem task_settle (views : Watch V) (c : Coordinator) :
    (c.settle views).task =
      if c.task.isDue views then (if views.live then .waiting views.subscribe else .holding)
      else if views.live then c.task
      else if c.task = .ended then .ended else .holding := by
  rcases settle_cases views c with ⟨hd, hs⟩ | ⟨hd, ⟨hs, hl⟩ | ⟨⟨watcher, hw, hv⟩, hl, hs⟩⟩
  · rw [hs, if_pos hd]
    rfl
  · rw [hs, if_neg (by simp [hd])]
    rcases hl with hl | hl | hl <;> simp [hl]
  · rw [hs, if_neg (by simp [hd]), if_neg (by simp [hl]), if_neg (by simp [hw])]

theorem isDue_settle (views : Watch V) (c : Coordinator) : (c.settle views).task.isDue views = false := by
  rw [task_settle]
  cases hd : c.task.isDue views <;> cases views.live <;> simp [hd, ObserverTask.isDue_subscribe]
  · split <;> rfl
  · rfl

@[simp] theorem task_shutdown (views : Watch V) (c : Coordinator) : (c.shutdown views).task = .ended := by
  rcases shutdown_cases views c with ⟨ht, hs⟩ | ⟨-, d, -, hs⟩ <;> rw [hs]
  exact ht

/-! ## what was called -/

/-- The log tells of every look, and of the last stop once the task has ended. -/
structure Told (seen : List V) (c : Coordinator) : Prop where
  up : c.serviceUp = if c.task = .ended then false else shouldRun seen
  reported : c.reported = known seen
  calls : c.calls = callsOf [] seen ++ if c.task = .ended then serviceCalls (shouldRun seen) false else []

theorem Told.start : Told ([] : List V) {} where
  up := rfl
  reported := rfl
  calls := rfl

variable {c : Coordinator} {seen : List V}

theorem Told.of_not_ended (h : c.Told seen) (ht : c.task ≠ .ended) :
    c.serviceUp = shouldRun seen ∧ c.calls = callsOf [] seen :=
  ⟨h.up.trans (if_neg ht), h.calls.trans (by rw [if_neg ht, List.append_nil])⟩

theorem Told.takesTurns (h : c.Told seen) : TakesTurns false c.calls c.serviceUp := by
  have looked : TakesTurns false (callsOf [] seen) (shouldRun seen) := takesTurns_callsOf [] seen
  rw [h.calls, h.up]
  split
  · exact looked.append (.serviceCalls _ _)
  · rw [List.append_nil]
    exact looked

/-- A look is told of as it ought to be, wherever the task stands afterwards. -/
theorem Told.look (h : c.Told seen) (ht : c.task ≠ .ended) (v : V) {task : ObserverTask} (htask : task ≠ .ended) :
    Told (seen ++ [v]) { c.observe v with task } := by
  obtain ⟨hup, hcalls⟩ := h.of_not_ended ht
  refine ⟨?_, ?_, ?_⟩
  · simp [observe, htask]
  · simp [observe, known]
  · simp only [observe, hup, hcalls, h.reported, if_neg htask, List.append_nil, List.append_assoc,
      callsOf_append, List.nil_append, callsOf, callsFor, fresh]

/-- A task that goes to wait elsewhere has nothing to tell. -/
theorem Told.wait (h : c.Told seen) (ht : c.task ≠ .ended) {task : ObserverTask} (htask : task ≠ .ended) :
    Told seen { c with task } := by
  obtain ⟨hup, hcalls⟩ := h.of_not_ended ht
  exact ⟨hup.trans (if_neg htask).symm, h.reported, hcalls.trans (by rw [if_neg htask, List.append_nil])⟩

/-- The end is told of by one more stop if the service is up. -/
theorem Told.stop (h : c.Told seen) (ht : c.task ≠ .ended) :
    Told seen { c with task := .ended, serviceUp := false, calls := c.calls ++ serviceCalls c.serviceUp false } := by
  obtain ⟨hup, hcalls⟩ := h.of_not_ended ht
  exact ⟨rfl, h.reported, by simp only [hup, hcalls, if_true]⟩

end Coordinator

/-! ## the service beside an engine -/

/-- A coordinator beside the views that it observes. -/
structure Service (V : Type) where
  views : Watch V
  coordinator : Coordinator := {}
  /-- Whether the end of the coordinator was asked for. -/
  ending : Bool := false

/-- What may happen to them. -/
inductive ServiceMove (V : Type) where
  | publish (view : V)
  /-- The publisher goes away. -/
  | close
  /-- The end of the coordinator is asked for. -/
  | cancel
  /-- The task runs until it waits, or to its end if that was asked for. -/
  | settle

namespace Service

variable {V : Type} {s t : Service V}

/-- The view that a move makes the task look at. -/
def looks (s : Service V) : ServiceMove V → List V
  | .settle =>
    if s.coordinator.task.isDue s.views ∧ (s.ending → s.coordinator.task = .ready) then [s.views.value] else []
  | .publish _ | .close | .cancel => []

/-- Where the first service has lost its publisher it holds on, and the second waits for a view to come; that aside
their tasks stand at the same place before the same view. -/
structure Alike (s t : Service V) : Prop where
  value : s.views.value = t.views.value
  version : s.views.version = t.views.version
  closed : s.views.live = false
  ending : s.ending = t.ending
  task : s.coordinator.task = t.coordinator.task ∨
    s.coordinator.task = .holding ∧ t.coordinator.task = .waiting t.views.subscribe

theorem Alike.isDue (h : Alike s t) : s.coordinator.task.isDue s.views = t.coordinator.task.isDue t.views := by
  rcases h.task with ht | ⟨hs, ht⟩
  · rw [ht]
    cases t.coordinator.task with
    | ready | holding | ended => rfl
    | waiting watcher => simp only [ObserverTask.isDue, Watch.notice_eq_changed_iff, h.version]
  · rw [hs, ht, ObserverTask.isDue_subscribe]
    rfl

theorem Alike.ended_iff (h : Alike s t) : s.coordinator.task = .ended ↔ t.coordinator.task = .ended := by
  rcases h.task with ht | ⟨hs, ht⟩
  · rw [ht]
  · simp [hs, ht]

theorem Alike.looks (h : Alike s t) (m : ServiceMove V) : s.looks m = t.looks m := by
  have hready : s.coordinator.task = .ready ↔ t.coordinator.task = .ready := by
    rcases h.task with ht | ⟨hs, ht⟩
    · rw [ht]
    · simp [hs, ht]
  cases m with
  | publish | close | cancel => rfl
  | settle => simp only [Service.looks, h.isDue, h.ending, h.value, hready]

variable [EngineView V]

def step (s : Service V) : ServiceMove V → Service V
  | .publish view => if s.views.live then { s with views := s.views.publish view } else s
  | .close => { s with views := s.views.close }
  | .cancel => { s with ending := true }
  | .settle =>
    { s with
      coordinator := if s.ending then s.coordinator.shutdown s.views else s.coordinator.settle s.views }

def run (moves : List (ServiceMove V)) (s : Service V) : Service V := moves.foldl step s

/-- The views that moves make the task look at, in order. -/
def looksOf : List (ServiceMove V) → Service V → List V
  | [], _ => []
  | m :: rest, s => s.looks m ++ looksOf rest (s.step m)

/-! ## every run -/

variable {seen : List V}

theorem told_step (h : s.coordinator.Told seen) (m : ServiceMove V) :
    (s.step m).coordinator.Told (seen ++ s.looks m) := by
  cases m with
  | publish view =>
    rw [looks, List.append_nil, step]
    split <;> exact h
  | close | cancel =>
    rw [looks, List.append_nil]
    exact h
  | settle =>
    simp only [step, looks]
    cases he : s.ending with
    | false =>
      simp only [Bool.false_eq_true, false_implies, and_true, if_false]
      rcases Coordinator.settle_cases s.views s.coordinator with ⟨hd, hs⟩ | ⟨hd, ⟨hs, -⟩ | ⟨⟨watcher, hw, -⟩, -, hs⟩⟩
      · have ht : s.coordinator.task ≠ .ended := fun ht => by simp [ht, ObserverTask.isDue] at hd
        rw [if_pos hd, hs, Coordinator.observeAndWait]
        split
        · exact h.look ht _ (by simp)
        · exact h.look ht _ (by simp)
      · rw [if_neg (by simp [hd]), hs, List.append_nil]
        exact h
      · rw [if_neg (by simp [hd]), hs, List.append_nil]
        exact h.wait (by simp [hw]) (by simp)
    | true =>
      simp only [true_implies, if_true]
      rcases Coordinator.shutdown_cases s.views s.coordinator with
        ⟨ht, hs⟩ | ⟨ht, c, ⟨hr, rfl⟩ | ⟨hr, rfl⟩, hs⟩
      · rw [if_neg (by simp [ht]), hs, List.append_nil]
        exact h
      · rw [if_pos ⟨by simp [hr, ObserverTask.isDue], hr⟩, hs]
        exact (h.look ht s.views.value ht).stop ht
      · rw [if_neg (by simp [hr]), hs, List.append_nil]
        exact h.stop ht

theorem told_run (h : s.coordinator.Told seen) (moves : List (ServiceMove V)) :
    (run moves s).coordinator.Told (seen ++ looksOf moves s) := by
  induction moves generalizing s seen with
  | nil =>
    rw [looksOf, List.append_nil]
    exact h
  | cons m rest ih =>
    rw [looksOf, ← List.append_assoc]
    exact ih (told_step h m)

/-! ## what waits is in step -/

/-- The service is up if the latest view is running, unless the task has a view left to look at. -/
def Fits (s : Service V) : Prop :=
  match s.coordinator.task with
  | .ready => True
  | .waiting watcher =>
    watcher.seen ≤ s.views.version ∧
      (watcher.seen = s.views.version → s.coordinator.serviceUp = EngineView.isRunning s.views.value)
  | .holding => s.views.live = false ∧ s.coordinator.serviceUp = EngineView.isRunning s.views.value
  | .ended => s.ending = true

theorem Fits.publish (h : s.Fits) (hl : s.views.live = true) (view : V) :
    Fits { s with views := s.views.publish view } := by
  rw [Fits] at h ⊢
  cases ht : s.coordinator.task with
  | ready => trivial
  | waiting watcher =>
    rw [ht] at h
    refine ⟨Nat.le_succ_of_le h.1, fun hv => ?_⟩
    have := h.1
    rw [Watch.version_publish] at hv
    omega
  | holding =>
    rw [ht] at h
    exact absurd (hl.symm.trans h.1) (by decide)
  | ended =>
    rw [ht] at h
    exact h

theorem Fits.settle (h : s.Fits) (he : s.ending = false) : (s.step .settle).Fits := by
  simp only [Service.step, he, Bool.false_eq_true, if_false]
  rcases Coordinator.settle_cases s.views s.coordinator with ⟨-, hs⟩ | ⟨-, ⟨hs, -⟩ | ⟨⟨watcher, hw, hv⟩, hl, hs⟩⟩
  · rw [hs, Coordinator.observeAndWait, Fits]
    cases hl : s.views.live with
    | true => exact ⟨Nat.le_refl _, fun _ => rfl⟩
    | false => exact ⟨rfl, rfl⟩
  · rw [hs]
    exact he ▸ h
  · -- The task was told of the end, so it has seen the last view.
    rw [Fits, hw] at h
    rw [hs]
    exact ⟨hl, h.2 hv.symm⟩

theorem Fits.step (h : s.Fits) (m : ServiceMove V) : (s.step m).Fits := by
  cases m with
  | publish view =>
    rw [Service.step]
    split
    · exact h.publish ‹_› view
    · exact h
  | close =>
    rw [Service.step, Fits]
    rw [Fits] at h
    dsimp only
    cases ht : s.coordinator.task with
    | ready => trivial
    | waiting watcher | ended =>
      rw [ht] at h
      exact h
    | holding =>
      rw [ht] at h
      exact ⟨rfl, h.2⟩
  | cancel =>
    rw [Service.step, Fits]
    rw [Fits] at h
    dsimp only
    cases ht : s.coordinator.task with
    | ready => trivial
    | waiting watcher | holding =>
      rw [ht] at h
      exact h
    | ended => rfl
  | settle =>
    cases he : s.ending with
    | false => exact h.settle he
    | true =>
      simp only [Service.step, he, if_true]
      rcases Coordinator.shutdown_cases s.views s.coordinator with ⟨-, hs⟩ | ⟨-, c, -, hs⟩ <;> rw [hs]
      · exact he ▸ h
      · exact rfl

theorem Fits.run (h : s.Fits) (moves : List (ServiceMove V)) : (s.run moves).Fits :=
  List.foldlRecOn _ _ h fun _ h m _ => h.step m

/-- Before the end is asked for, a service with nothing left to look at is up exactly while the view is running. -/
theorem Fits.of_not_isDue (h : s.Fits) (he : s.ending = false) (hd : s.coordinator.task.isDue s.views = false) :
    s.coordinator.serviceUp = EngineView.isRunning s.views.value := by
  rw [Fits] at h
  cases ht : s.coordinator.task with
  | ready => simp [ht, ObserverTask.isDue] at hd
  | waiting watcher =>
    rw [ht] at h hd
    simp only [ObserverTask.isDue, decide_eq_false_iff_not, Watch.notice_eq_changed_iff, ne_eq,
      Decidable.not_not] at hd
    exact h.2 hd.symm
  | holding =>
    rw [ht] at h
    exact h.2
  | ended =>
    rw [ht] at h
    exact absurd (he.symm.trans h) (by decide)

/-! ## without a publisher -/

theorem alike_close (s : Service V) : Alike (s.step .close) s := ⟨rfl, rfl, rfl, rfl, .inl rfl⟩

theorem Alike.settle (h : Alike s t) : Alike (s.step .settle) (t.step .settle) := by
  refine ⟨h.value, h.version, h.closed, h.ending, ?_⟩
  simp only [Service.step, h.ending]
  cases t.ending with
  | true => exact .inl (by simp)
  | false =>
    simp only [Bool.false_eq_true, if_false, Coordinator.task_settle, h.isDue, h.closed]
    cases hd : t.coordinator.task.isDue t.views with
    | true => cases t.views.live <;> simp
    | false =>
      rcases h.task with ht | ⟨hs, ht⟩
      · rw [ht]
        cases hw : t.coordinator.task with
        | ready => simp [hw, ObserverTask.isDue] at hd
        | holding | ended => simp
        | waiting watcher =>
          have hseen : watcher = t.views.subscribe := by
            simp only [hw, ObserverTask.isDue, decide_eq_false_iff_not, Watch.notice_eq_changed_iff, ne_eq,
              Decidable.not_not] at hd
            rw [Watch.subscribe, hd]
          cases t.views.live <;> simp [hseen]
      · cases t.views.live <;> simp [hs, ht]

/-- Without a publisher all goes on as with one that publishes nothing more. -/
theorem Alike.step (h : Alike s t) {m : ServiceMove V} (hm : ∀ view, m ≠ .publish view) :
    Alike (s.step m) (t.step m) := by
  cases m with
  | publish view => exact absurd rfl (hm view)
  | close => exact ⟨h.value, h.version, rfl, h.ending, h.task⟩
  | cancel => exact ⟨h.value, h.version, h.closed, rfl, h.task⟩
  | settle => exact h.settle

theorem Alike.run (h : Alike s t) {moves : List (ServiceMove V)} (hmoves : ∀ view, .publish view ∉ moves) :
    Alike (run moves s) (run moves t) ∧ looksOf moves s = looksOf moves t := by
  induction moves generalizing s t with
  | nil => exact ⟨h, rfl⟩
  | cons m rest ih =>
    have hm : ∀ view, m ≠ .publish view := fun view hv => hmoves view (hv ▸ List.mem_cons_self)
    obtain ⟨ha, hl⟩ := ih (h.step hm) fun view hv => hmoves view (List.mem_cons_of_mem _ hv)
    refine ⟨ha, ?_⟩
    rw [looksOf, looksOf, h.looks, hl]

/-- What was called depends only on what was looked at and on whether the task has ended. -/
theorem told_unique {c d : Coordinator} (hc : c.Told seen) (hd : d.Told seen)
    (ht : c.task = .ended ↔ d.task = .ended) : c.calls = d.calls ∧ c.serviceUp = d.serviceUp := by
  rw [hc.calls, hd.calls, hc.up, hd.up]
  simp only [ht, and_self]

/-- A task that has ended stays as it is. -/
theorem run_of_ended (ht : s.coordinator.task = .ended) (moves : List (ServiceMove V)) :
    (run moves s).coordinator = s.coordinator := by
  induction moves generalizing s with
  | nil => rfl
  | cons m rest ih =>
    have hs : (s.step m).coordinator = s.coordinator := by
      cases m with
      | publish view => rw [step]; split <;> rfl
      | close | cancel => rfl
      | settle => simp only [step, Coordinator.shutdown, Coordinator.settle, ht, ite_self]
    exact (ih (hs ▸ ht)).trans hs

/-- **The service is up while the view is running**, for views of any engine that are published, looked at and
coalesced in any order, with or without an end of the publisher, and until an end that is asked for at any time.
Starts and stops take turns, a start first. Before the end a task with nothing left to look at has the service up
exactly if the latest view is running, and letting it run leaves it nothing. A look calls for the service first and
then reports, and it leaves the service alone unless the view before it differs in whether it is running. Without its
publisher the coordinator calls what it would have called. The end comes once the task is let run; then every start
has its stop, and nothing is called any more. -/
theorem service_follows_running (views : Watch V) (moves : List (ServiceMove V)) :
    let s := run moves { views }
    let seen := looksOf moves { views }
    let calls := s.coordinator.calls
    TakesTurns false calls s.coordinator.serviceUp ∧
      (s.ending = false → s.coordinator.task.isDue s.views = false →
        s.coordinator.serviceUp = EngineView.isRunning s.views.value) ∧
      (s.ending = false → (s.step .settle).coordinator.task.isDue s.views = false) ∧
      (∀ earlier v later, seen = earlier ++ v :: later → ∃ service reports rest,
        calls = Coordinator.callsOf [] earlier ++ service ++ reports ++ rest ∧ service.length ≤ 1 ∧
          (∀ u, earlier.getLast? = some u → EngineView.isRunning u = EngineView.isRunning v → service = []) ∧
          ∀ call ∈ reports, ∃ message, call = .reportFailure message) ∧
      (∀ later, (∀ view, .publish view ∉ later) →
        (run later (s.step .close)).coordinator.calls = (run later s).coordinator.calls ∧
          (run later (s.step .close)).coordinator.serviceUp = (run later s).coordinator.serviceUp) ∧
      ((s.step .cancel).step .settle).coordinator.task = .ended ∧
      (s.coordinator.task = .ended → calls.count .startService = calls.count .stopService ∧
        ∀ later, (run later s).coordinator = s.coordinator) := by
  intro s seen calls
  have htold : s.coordinator.Told seen := told_run (s := { views }) .start moves
  have hfits : s.Fits := Fits.run (s := { views }) trivial moves
  refine ⟨htold.takesTurns, hfits.of_not_isDue, fun he => ?_, fun earlier v later hseen => ?_,
    fun later hlater => ?_, ?_, fun ht => ⟨?_, run_of_ended ht⟩⟩
  · simp only [step, he, Bool.false_eq_true, if_false]
    exact Coordinator.isDue_settle s.views s.coordinator
  · refine ⟨Coordinator.serviceCalls (Coordinator.shouldRun earlier) (EngineView.isRunning v),
      (Coordinator.fresh earlier v).map .reportFailure, Coordinator.callsOf (earlier ++ [v]) later ++
        if s.coordinator.task = .ended then Coordinator.serviceCalls (Coordinator.shouldRun seen) false else [],
      ?_, Coordinator.length_serviceCalls_le _ _, fun u hu hrun => ?_, fun call hcall => ?_⟩
    · simp only [calls, htold.calls, hseen, Coordinator.callsOf_append, List.nil_append, Coordinator.callsOf,
        Coordinator.callsFor, List.append_assoc]
    · have hup : Coordinator.shouldRun earlier = EngineView.isRunning v := by
        rw [Coordinator.shouldRun, hu]
        exact hrun
      rw [hup, Coordinator.serviceCalls, if_pos rfl]
    · obtain ⟨message, -, rfl⟩ := List.mem_map.1 hcall
      exact ⟨message, rfl⟩
  · obtain ⟨ha, hlooks⟩ := (alike_close s).run hlater
    have closed : (s.step .close).coordinator.Told seen := htold
    have after := told_run closed later
    rw [hlooks] at after
    exact told_unique after (told_run htold later) ha.ended_iff
  · simp [step]
  · have hcount := htold.takesTurns.count
    rw [htold.up, if_pos ht] at hcount
    exact hcount

/-- A service that was never started is not stopped, and a failure that recurs after a view without it is reported
again. -/
example :
    let failed (message : String) : ProfileView := { outcome := some (.failed message) }
    let running : ProfileView := { outcome := some .running }
    (run [.settle, .publish running, .publish running, .settle, .publish (failed "busy"), .settle, .close, .settle,
        .cancel, .settle] { views := { value := failed "busy" } }).coordinator.calls =
      [.reportFailure "busy", .startService, .stopService, .reportFailure "busy"] := by decide

end Service

end ProxyKeeper

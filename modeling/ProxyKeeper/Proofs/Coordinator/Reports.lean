/-
What a coordinator reports of the views that it looks at, one after the
other: of each view the failures that the view before did not list, as often
as this one lists them (`reports_new_failures`). A failure that stays is
reported once, one that goes and comes back is reported again.

A failure is known by its text alone, and the set of known texts is replaced
only after a whole view was walked through. So what a view lists twice is
reported twice, as in `failure_listed_twice`, where an id runs on into a
message. A view of a profile lists one failure at most, and a view of
instances whose ids hold no colon lists no text twice; what is new in such a
view is reported once (`count_fresh_profile`, `count_fresh_instances`).
-/
import Mathlib.Data.List.Nodup
import ProxyKeeper.Proofs.Coordinator.Run
import ProxyKeeper.Proofs.IdMap

namespace ProxyKeeper

/-! ## what views list -/

/-- A text that holds no colon is read off again from before one. -/
theorem takeWhile_before_colon {s : List Char} (hs : ':' ∉ s) (rest : List Char) :
    (s ++ ':' :: rest).takeWhile (· != ':') = s := by
  rw [List.takeWhile_append_of_pos, List.takeWhile_cons_of_neg (by simp), List.append_nil]
  intro c hc
  have : c ≠ ':' := fun he => hs (he ▸ hc)
  simpa using this

theorem ProfileView.failures_nodup (v : ProfileView) : (EngineView.failures v).Nodup := by
  show v.failure?.toList.Nodup
  cases v.failure? <;> simp

/-- Ids without a colon are told apart by the texts that open with them. -/
theorem InstanceView.failure_text_inj {id other message reason : String} (hid : ':' ∉ id.toList)
    (hother : ':' ∉ other.toList) (h : s!"{id}: {message}" = s!"{other}: {reason}") : id = other := by
  have parts : ∀ id message : String,
      (s!"{id}: {message}").toList = id.toList ++ ':' :: ' ' :: message.toList := by
    intro id message
    show (id ++ ": " ++ message).toList = _
    simp
  have h := congrArg (List.takeWhile (· != ':')) (congrArg String.toList h)
  rw [parts, parts, takeWhile_before_colon hid, takeWhile_before_colon hother] at h
  exact String.toList_injective h

/-- A view whose ids hold no colon lists no text twice. -/
theorem InstanceView.failures_nodup {v : InstanceView} (hv : ∀ id ∈ v.instances.keys, ':' ∉ id.toList) :
    (EngineView.failures v).Nodup := by
  have distinct : v.instances.entries.Pairwise fun a b => a.1 ≠ b.1 := List.pairwise_map.1 v.instances.keys_nodup
  show (v.failed.map _).Nodup
  rw [List.Nodup, List.pairwise_map, InstanceView.failed, List.pairwise_filterMap]
  refine distinct.imp_of_mem fun ha hb hab x hx y hy htext => hab ?_
  obtain ⟨_, -, rfl⟩ := Option.map_eq_some_iff.1 hx
  obtain ⟨_, -, rfl⟩ := Option.map_eq_some_iff.1 hy
  exact InstanceView.failure_text_inj (hv _ (List.mem_map_of_mem ha)) (hv _ (List.mem_map_of_mem hb)) htext

/-! ## what is reported -/

/-- The message of a call that reports one. -/
def HookCall.message? : HookCall → Option String
  | .reportFailure message => some message
  | .startService | .stopService => none

namespace Coordinator

variable {V : Type} [EngineView V]

/-- The failures that are new in views that are looked at one after the other. -/
def freshOf (before : List V) : List V → List String
  | [] => []
  | v :: rest => fresh before v ++ freshOf (before ++ [v]) rest

theorem freshOf_append (before a b : List V) :
    freshOf before (a ++ b) = freshOf before a ++ freshOf (before ++ a) b := by
  induction a generalizing before with
  | nil => simp [freshOf]
  | cons v rest ih => simp [freshOf, ih, List.append_assoc]

@[simp] theorem messages_serviceCalls (isUp shouldRun : Bool) :
    (serviceCalls isUp shouldRun).filterMap HookCall.message? = [] := by
  cases isUp <;> cases shouldRun <;> rfl

theorem messages_reports (messages : List String) :
    (messages.map HookCall.reportFailure).filterMap HookCall.message? = messages := by
  rw [List.filterMap_map]
  exact List.filterMap_some

theorem messages_callsOf (before seen : List V) :
    (callsOf before seen).filterMap HookCall.message? = freshOf before seen := by
  induction seen generalizing before with
  | nil => rfl
  | cons v rest ih =>
    rw [callsOf, callsFor, freshOf, List.filterMap_append, List.filterMap_append, messages_serviceCalls,
      messages_reports, List.nil_append, ih]

theorem Told.messages {c : Coordinator} {seen : List V} (h : c.Told seen) :
    c.calls.filterMap HookCall.message? = freshOf [] seen := by
  rw [h.calls, List.filterMap_append, messages_callsOf]
  split <;> simp

theorem count_fresh (before : List V) (v : V) (message : String) :
    (fresh before v).count message =
      if message ∈ known before then 0 else (EngineView.failures v).count message := by
  split
  · rename_i hm
    exact List.count_eq_zero.2 fun h => by simp [fresh, hm] at h
  · rename_i hm
    exact List.count_filter (by simpa using hm)

variable {message : String}

theorem count_fresh_of_nodup {before : List V} {v : V} (hn : (EngineView.failures v).Nodup)
    (hm : message ∈ EngineView.failures v) (hnew : message ∉ known before) : (fresh before v).count message = 1 := by
  rw [count_fresh, if_neg hnew]
  exact List.nodup_iff_count_eq_one.1 hn message hm

/-- The failure of a profile is reported once when it is new. -/
theorem count_fresh_profile {before : List ProfileView} {v : ProfileView} (hm : message ∈ EngineView.failures v)
    (hnew : message ∉ known before) : (fresh before v).count message = 1 :=
  count_fresh_of_nodup v.failures_nodup hm hnew

/-- Every failure of instances whose ids hold no colon is reported once when it is new. -/
theorem count_fresh_instances {before : List InstanceView} {v : InstanceView}
    (hv : ∀ id ∈ v.instances.keys, ':' ∉ id.toList) (hm : message ∈ EngineView.failures v)
    (hnew : message ∉ known before) : (fresh before v).count message = 1 :=
  count_fresh_of_nodup (InstanceView.failures_nodup hv) hm hnew

end Coordinator

namespace Service

variable {V : Type} [EngineView V]

/-- **Of each view the failures are reported that the view before did not list**, for views of any engine and however
they are published, coalesced and looked at. What is reported is what is new at one look after the other. What is new
in a view stands in its order, as often as it stands in the view, and never if the view before lists it; so it is
reported once if the view lists it once. -/
theorem reports_new_failures (views : Watch V) (moves : List (ServiceMove V)) :
    let seen := looksOf moves { views }
    (run moves { views }).coordinator.calls.filterMap HookCall.message? = Coordinator.freshOf [] seen ∧
      ∀ earlier v later, seen = earlier ++ v :: later →
        Coordinator.freshOf [] seen =
            Coordinator.freshOf [] earlier ++ Coordinator.fresh earlier v ++
              Coordinator.freshOf (earlier ++ [v]) later ∧
          (Coordinator.fresh earlier v).Sublist (EngineView.failures v) ∧
          (∀ message, (Coordinator.fresh earlier v).count message =
            if (earlier.getLast?.map EngineView.failures).any (message ∈ ·) then 0
            else (EngineView.failures v).count message) ∧
          ((EngineView.failures v).Nodup → (Coordinator.fresh earlier v).Nodup) := by
  intro seen
  refine ⟨(told_run (s := { views }) .start moves).messages, fun earlier v later hseen =>
    ⟨?_, List.filter_sublist, fun message => ?_, fun hn => hn.sublist List.filter_sublist⟩⟩
  · rw [hseen, Coordinator.freshOf_append, Coordinator.freshOf, List.nil_append, List.append_assoc]
  · rw [Coordinator.count_fresh, Coordinator.known]
    cases earlier.getLast? <;> simp

/-- What stays is reported once, and again after a view without it. -/
example :
    let failed (message : String) : ProfileView := { outcome := some (.failed message) }
    (run [.settle, .publish (failed "busy"), .settle, .publish (failed "gone"), .settle, .publish (failed "busy"),
        .settle] { views := { value := failed "busy" } }).coordinator.calls =
      [.reportFailure "busy", .reportFailure "gone", .reportFailure "busy"] := by decide

/-- The text of the first instance ends where that of the second begins to tell its message. -/
def listedTwice : InstanceView :=
  let failed (message : String) : InstanceStatus := ⟨⟨"", 0, ⟨""⟩, ""⟩, .failed message⟩
  { instances := .ofList [("a", failed "b: c"), ("a: b", failed "c")] }

/-- A coordinator that first looks at such a view reports a text twice, so a new failure is not always reported
once. -/
theorem failure_listed_twice :
    (run [.settle] { views := { value := listedTwice } }).coordinator.calls =
        [.reportFailure "a: b: c", .reportFailure "a: b: c"] ∧
      ¬ ∀ (views : Watch InstanceView) (moves : List (ServiceMove InstanceView)) earlier v later,
        looksOf moves { views } = earlier ++ v :: later →
          ∀ message ∈ EngineView.failures v, message ∉ Coordinator.known earlier →
            (Coordinator.fresh earlier v).count message = 1 := by
  refine ⟨by decide, fun once => ?_⟩
  have h := once { value := listedTwice } [.settle] [] listedTwice [] rfl "a: b: c" (by decide) (by decide)
  exact absurd h (by decide)

end Service

end ProxyKeeper

/-
The view of the engine of instances against the requests behind it.

A factory is not told for which id a request is made, so the calls alone do
not say it. The log of a run does: each call, under the id that the engine
was busy with when it made the call (`labelled`; `calls_foldl`: the log
leaves out nothing and adds nothing).

`Answered` is the invariant: what is held for an id is what came of the last
request made for it, and that request was made with the connection held.
A failed attempt that is carried over from pass to pass keeps it, because no
request is made for an id that is kept.
-/
import ProxyKeeper.Proofs.Engine.InstancePass
import ProxyKeeper.Proofs.Engine.Run

namespace ProxyKeeper.InstanceEngine

/-- Calls to the factory, each under the id that it was made for. -/
abbrev Log := List (String × FactoryCall Connection)

/-! ## logs -/

/-- The calls of one step after the other, each under the id that its step is about. -/
def labelled {α : Type} (step : Stock → α → Stock) (label : α → String) : List α → Stock → Log
  | [], _ => []
  | a :: rest, stock =>
    ((step stock a).2.calls.drop stock.2.calls.length).map (label a, ·) ++ labelled step label rest (step stock a)

/-- The log of one pass. -/
def passLog (factory : Factory Connection) (wanted : Option (List Instance)) (stock : Stock) : Log :=
  labelled retire (fun id => id) (planOf wanted stock.1).retire stock ++
    labelled (build factory) (·.id) (planOf wanted stock.1).create (cleared wanted stock)

/-- The log of passes, one after the other. -/
def passesLog (factory : Factory Connection) : List (Option (List Instance)) → Stock → Log
  | [], _ => []
  | wanted :: rest, stock => passLog factory wanted stock ++ passesLog factory rest (pass factory wanted stock)

/-- The log of a run. -/
def runLog (factory : Factory Connection) (source : Watch (List Instance)) (moves : List (Move (List Instance))) :
    Log :=
  passesLog factory (World.passesOf trade factory moves (.create trade source)) (∅, .empty)

/-- What came of a request for the id. -/
def request? (id : String) : String × FactoryCall Connection → Option HeldInstance
  | (x, .create params outcome) => if x = id then some ⟨params, outcome⟩ else none
  | (_, .destroy _) => none

/-- What came of the last request for the id. -/
def lastRequest (id : String) (log : Log) : Option HeldInstance := log.reverse.findSome? (request? id)

theorem lastRequest_append (id : String) (a b : Log) :
    lastRequest id (a ++ b) = (lastRequest id b).or (lastRequest id a) := by
  simp [lastRequest]

/-! ## one step -/

theorem calls_retire (stock : Stock) (id : String) :
    (retire stock id).2.calls = stock.2.calls ∨ ∃ h, (retire stock id).2.calls = stock.2.calls ++ [.destroy h] := by
  rw [retire]
  split
  · exact .inl rfl
  · split
    · exact .inr ⟨_, rfl⟩
    · exact .inl rfl

theorem calls_build (factory : Factory Connection) (stock : Stock) (i : Instance) :
    (build factory stock i).2.calls =
      stock.2.calls ++ [.create i.connection (stock.2.create factory i.connection).2] := rfl

/-- A fold of steps that each add calls adds the calls of its log. -/
theorem calls_foldl {α : Type} {step : Stock → α → Stock}
    (adds : ∀ stock a, ∃ new, (step stock a).2.calls = stock.2.calls ++ new) (label : α → String)
    (l : List α) (stock : Stock) :
    (l.foldl step stock).2.calls = stock.2.calls ++ (labelled step label l stock).map (·.2) := by
  induction l generalizing stock with
  | nil => simp [labelled]
  | cons a rest ih =>
    obtain ⟨new, hnew⟩ := adds stock a
    rw [List.foldl_cons, ih, labelled, hnew, List.drop_left, List.map_append, ← List.append_assoc]
    simp [Function.comp_def]

theorem adds_retire (stock : Stock) (id : String) : ∃ new, (retire stock id).2.calls = stock.2.calls ++ new := by
  rcases calls_retire stock id with h | ⟨h, hc⟩
  · exact ⟨[], by rw [h, List.append_nil]⟩
  · exact ⟨_, hc⟩

theorem calls_pass (factory : Factory Connection) (wanted : Option (List Instance)) (stock : Stock) :
    (pass factory wanted stock).2.calls = stock.2.calls ++ (passLog factory wanted stock).map (·.2) := by
  rw [pass_eq, calls_foldl (fun stock i => ⟨_, calls_build factory stock i⟩) (·.id), cleared,
    calls_foldl adds_retire (fun id => id), passLog, cleared, List.map_append, List.append_assoc]

theorem calls_passes (factory : Factory Connection) (passes : List (Option (List Instance)))
    (r : Record Connection (IdMap HeldInstance) InstanceView) :
    (passes.foldl (Record.pass trade factory) r).ledger.calls =
      r.ledger.calls ++ (passesLog factory passes r.stock).map (·.2) := by
  induction passes generalizing r with
  | nil => simp [passesLog]
  | cons wanted rest ih =>
    have hp : (r.pass trade factory wanted).ledger.calls =
        r.ledger.calls ++ (passLog factory wanted r.stock).map (·.2) :=
      calls_pass factory wanted r.stock
    rw [List.foldl_cons, ih, hp, passesLog, List.map_append, ← List.append_assoc]
    rfl

/-! ## what is held, by the log -/

/-- Whatever is held is what came of the last request for its id. -/
def Answered (held : IdMap HeldInstance) (log : Log) : Prop :=
  ∀ id entry, held.get? id = some entry → lastRequest id log = some entry

theorem Answered.retire {stock : Stock} {log : Log} (h : Answered stock.1 log) (ids : List String) :
    Answered (ids.foldl retire stock).1 (log ++ labelled InstanceEngine.retire (fun id => id) ids stock) := by
  induction ids generalizing stock log with
  | nil => simpa [labelled] using h
  | cons id rest ih =>
    rw [List.foldl_cons, labelled, ← List.append_assoc]
    refine ih fun x entry he => ?_
    rw [get?_retire] at he
    split at he
    · cases he
    · rw [lastRequest_append, h x entry he]
      have hnone : lastRequest x
          (((InstanceEngine.retire stock id).2.calls.drop stock.2.calls.length).map (id, ·)) =
          none := by
        rcases calls_retire stock id with hc | ⟨own, hc⟩ <;> rw [hc] <;> simp [lastRequest, request?]
      rw [hnone]
      rfl

theorem Answered.build {factory : Factory Connection} {stock : Stock} {log : Log} (h : Answered stock.1 log)
    (instances : List Instance) :
    Answered (instances.foldl (build factory) stock).1
      (log ++ labelled (InstanceEngine.build factory) (·.id) instances stock) := by
  induction instances generalizing stock log with
  | nil => simpa [labelled] using h
  | cons i rest ih =>
    rw [List.foldl_cons, labelled, ← List.append_assoc]
    refine ih fun x entry he => ?_
    rw [get?_build] at he
    rw [lastRequest_append, calls_build, List.drop_left]
    split at he
    · rename_i hx
      simp [lastRequest, request?, hx, he]
    · rename_i hx
      rw [h x entry he]
      simp [lastRequest, request?, Ne.symm hx]

theorem Answered.pass {factory : Factory Connection} {stock : Stock} {log : Log} (h : Answered stock.1 log)
    (wanted : Option (List Instance)) :
    Answered (pass factory wanted stock).1 (log ++ passLog factory wanted stock) := by
  rw [passLog, ← List.append_assoc]
  exact (h.retire (planOf wanted stock.1).retire).build (planOf wanted stock.1).create

theorem Answered.passes {factory : Factory Connection} {r : Record Connection (IdMap HeldInstance) InstanceView}
    {log : Log} (h : Answered r.held log) (passes : List (Option (List Instance))) :
    Answered (passes.foldl (Record.pass trade factory) r).held (log ++ passesLog factory passes r.stock) := by
  induction passes generalizing r log with
  | nil => simpa [passesLog] using h
  | cons wanted rest ih =>
    rw [List.foldl_cons, passesLog, ← List.append_assoc]
    exact ih (r := r.pass trade factory wanted) (h.pass wanted)

/-! ## every run -/

theorem answered_run (factory : Factory Connection) (source : Watch (List Instance))
    (moves : List (Move (List Instance))) :
    Answered (World.run trade factory moves (.create trade source)).engine.record.held
      (runLog factory source moves) := by
  have h : Answered (Record.initial trade).held [] := fun id entry he => by cases he
  rw [World.record_run, runLog]
  exact h.passes _

theorem calls_run (factory : Factory Connection) (source : Watch (List Instance))
    (moves : List (Move (List Instance))) :
    (World.run trade factory moves (.create trade source)).engine.record.ledger.calls =
      (runLog factory source moves).map (·.2) := by
  rw [World.record_run, calls_passes]
  rfl

theorem generation_view_run (factory : Factory Connection) (source : Watch (List Instance))
    (moves : List (Move (List Instance))) :
    (World.run trade factory moves (.create trade source)).engine.record.view.value.generation =
      (World.run trade factory moves (.create trade source)).engine.record.generation :=
  World.record_induction (I := fun r => r.view.value.generation = r.generation) trade factory rfl
    (fun _ _ _ => rfl) source moves

theorem connectionFor_wanted (e : InstanceEngine) (snapshot : List Instance) (id : String) :
    Plan.connectionFor ((e.wanted snapshot).getD []) id =
      if e.isStarted then Plan.connectionFor snapshot id else none := by
  rw [Engine.wanted]
  split <;> rfl

/-- **The published view is the one that is desired**, in every run and whatever the factory answers:
after a pass the view has the ids of the snapshot's enabled records and their connections, of each id
the first, and no id while the engine is stopped; what it says of an id is what came of the last
request for it, which was made with that connection; it is what is held, entry by entry; and it is one
generation on. -/
theorem reconcile_publishes_desired (factory : Factory Connection) (source : Watch (List Instance))
    (moves : List (Move (List Instance))) (snapshot : List Instance) :
    let w := World.run trade factory moves (.create trade source)
    let after := w.engine.reconcile trade factory snapshot
    let view := after.view.value
    let log := runLog factory source (moves ++ [.reconcile snapshot])
    log.map (·.2) = after.ledger.calls ∧
      (∀ id, (view.instances.get? id).map (·.fingerprint) =
        if w.engine.isStarted then (snapshot.find? fun i => i.enabled && i.id == id).map (·.connection)
        else none) ∧
      (∀ id s, view.instances.get? id = some s →
        (∃ h, lastRequest id log = some ⟨s.fingerprint, .ok h⟩ ∧ s.outcome = .running) ∨
          ∃ message, lastRequest id log = some ⟨s.fingerprint, .error message⟩ ∧ s.outcome = .failed message) ∧
      view.instances = after.held.map HeldInstance.status ∧
      view.generation = w.engine.view.value.generation + 1 := by
  intro w after view log
  have hrun :
      (World.run trade factory (moves ++ [.reconcile snapshot]) (.create trade source)).engine = after := by
    rw [World.run_append]
    rfl
  refine ⟨?_, fun id => ?_, fun id s hs => ?_, rfl, ?_⟩
  · exact (calls_run factory source (moves ++ [.reconcile snapshot])).symm.trans (by rw [hrun])
  · have hv : view.instances.get? id = (after.held.get? id).map HeldInstance.status := IdMap.get?_map _ _ _
    have hf := fingerprint_pass factory (w.engine.wanted snapshot) w.engine.record.stock id
    rw [connectionFor_wanted] at hf
    rw [hv, Option.map_map]
    exact hf
  · obtain ⟨entry, he, rfl⟩ := Option.map_eq_some_iff.1 ((IdMap.get?_map _ _ _).symm.trans hs)
    have ha := answered_run factory source (moves ++ [.reconcile snapshot])
    rw [hrun] at ha
    have hl := ha id entry he
    obtain ⟨c, resource⟩ := entry
    cases resource with
    | ok h => exact .inl ⟨h, hl, rfl⟩
    | error message => exact .inr ⟨message, hl, rfl⟩
  · exact congrArg (· + 1) (generation_view_run factory source moves).symm

end ProxyKeeper.InstanceEngine

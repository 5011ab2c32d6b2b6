/-
The engine of profiles over whole runs: it never has two handles, and its
view tells what became of the last attempt.

A pass gives back what is held before it asks for anything (`calls_pass`), so
no prefix of the calls leaves two handles alive, not even one that ends in the
middle of a pass (`Ledger.AtMostOne`). `Sole` is the invariant that carries
this through a run: the handle that is alive is the one that is held, and the
view says of what is held what it is. `Passed` is what one pass comes to; it
needs the invariant before the pass, since only then the handle that is alive
is one that the pass knows of.

A running view names a profile of the set that it was made with, so the line
that is printed of it is the one for a running engine and never falls through
to the idle one.
-/
import ProxyKeeper.Engine.Profile
import ProxyKeeper.Proofs.Engine.Ledger
import ProxyKeeper.Proofs.Engine.Run
import ProxyKeeper.Proofs.Report

namespace ProxyKeeper

/-! ## one handle at a time -/

/-- At no time during the calls were two handles alive. -/
def Ledger.AtMostOne {P : Type} (l : Ledger P) : Prop :=
  ∀ before, before <+: l.calls → (⟨before⟩ : Ledger P).alive.length ≤ 1

namespace Ledger

variable {P : Type} {l : Ledger P}

theorem AtMostOne.empty : (empty : Ledger P).AtMostOne := by
  intro before h
  rw [List.prefix_nil.1 h]
  exact Nat.zero_le 1

/-- One more call: only what is alive after it is new. -/
theorem AtMostOne.concat (h : l.AtMostOne) {call : FactoryCall P}
    (hc : (⟨l.calls ++ [call]⟩ : Ledger P).alive.length ≤ 1) : (⟨l.calls ++ [call]⟩ : Ledger P).AtMostOne := by
  intro before hb
  rcases List.prefix_concat_iff.1 hb with rfl | hb
  · exact hc
  · exact h before hb

theorem AtMostOne.destroy (h : l.AtMostOne) (handle : Nat) : (l.destroy handle).AtMostOne := by
  refine h.concat ?_
  have ha := alive_destroy l handle
  rw [Ledger.destroy] at ha
  rw [ha]
  exact Nat.le_trans (List.length_filter_le _ _) (h l.calls (List.prefix_refl _))

theorem AtMostOne.create (h : l.AtMostOne) (hl : l.Sound) (none_alive : l.alive = []) (factory : Factory P)
    (params : P) : (l.create factory params).1.AtMostOne := by
  have ha := hl.alive_create factory params
  rw [create_eq] at ha ⊢
  refine h.concat ?_
  rw [ha, none_alive]
  cases (l.create factory params).2.toOption <;> simp

end Ledger

namespace ProfileEngine

/-! ## one pass -/

/-- The handle that is held. -/
def handle? (held : Option HeldProfile) : Option Nat := held.bind (·.resource.toOption)

/-- What a pass asks for: the ports of the set and the addresses of its selected profile, or nothing
unless the selection names a profile of the set. -/
def requests (wanted : Option ProfileSet) : List ProfileParams :=
  (wanted.bind fun set => set.selectedProfile?.map fun p =>
    (⟨set.httpProxyPort, set.socks5ProxyPort, set.apiServerPort, p.mainServerUrl, p.aiServerUrl,
      p.tailscaleServerUrl⟩ : ProfileParams)).toList

abbrev ProfileRecord := Record ProfileParams (Option HeldProfile) ProfileView

/-- What one pass comes to: the handle that is alive is given back and only then a new one is asked
for, once or not at all; the view says what came of it. -/
structure Passed (before : ProfileRecord) (wanted : Option ProfileSet) (after : ProfileRecord) : Prop where
  calls : ∃ outcome, after.ledger.calls =
    before.ledger.calls ++ before.ledger.alive.map .destroy ++ (requests wanted).map (.create · outcome)
  alive_iff : after.ledger.alive ≠ [] ↔ after.view.value.outcome = some .running
  config_iff : after.view.value.configUsed.isSome = after.view.value.outcome.isSome
  config : ∀ set, after.view.value.configUsed = some set → wanted = some set ∧ set.selectedProfile?.isSome
  endpoint : after.view.value.activeEndpoint =
    if after.view.value.isRunning then wanted.map (·.apiServerPort) else none
  generation : after.view.value.generation = before.view.value.generation + 1

theorem retire_eq (held : Option HeldProfile) (l : Ledger ProfileParams) :
    retire held l = match handle? held with
      | some handle => l.destroy handle
      | none => l := by
  cases held with
  | none => rfl
  | some h =>
    obtain ⟨set, resource⟩ := h
    cases resource <;> rfl

/-- All that a pass can do: an attempt for the selected profile, or none. -/
theorem pass_cases (factory : Factory ProfileParams) (wanted : Option ProfileSet) (held : Option HeldProfile)
    (l : Ledger ProfileParams) :
    (∃ set params, wanted = some set ∧ set.selectedProfile?.isSome ∧ requests wanted = [params] ∧
      pass factory wanted (held, l) = (some ⟨set, ((retire held l).create factory params).2⟩,
        ((retire held l).create factory params).1)) ∨
      requests wanted = [] ∧ pass factory wanted (held, l) = (none, retire held l) := by
  cases wanted with
  | none => exact .inr ⟨rfl, rfl⟩
  | some set =>
    cases hp : set.selectedProfile? with
    | none => exact .inr ⟨by simp [requests, hp], by simp [pass, ProfileSet.params?, hp]⟩
    | some p =>
      have hr : requests (some set) = [⟨set.httpProxyPort, set.socks5ProxyPort, set.apiServerPort,
          p.mainServerUrl, p.aiServerUrl, p.tailscaleServerUrl⟩] := by simp [requests, hp]
      exact .inl ⟨set, _, rfl, by rw [hp]; rfl, hr, by simp only [pass, ProfileSet.params?, hp, Option.map_some]⟩

/-! ## the invariant -/

/-- One handle is alive at most, the one that is held; the view says of what is held what it is. -/
structure Sole (r : ProfileRecord) : Prop where
  sound : r.ledger.Sound
  atMostOne : r.ledger.AtMostOne
  alive : r.ledger.alive = (handle? r.held).toList
  outcome : r.view.value.outcome = r.held.map HeldProfile.status
  config : r.view.value.configUsed = r.held.map (·.set)
  resolves : ∀ h, r.held = some h → h.set.selectedProfile?.isSome
  generation : r.view.value.generation = r.generation

theorem Sole.initial : Sole (.initial trade) where
  sound := .empty
  atMostOne := .empty
  alive := rfl
  outcome := rfl
  config := rfl
  resolves _ h := by cases h
  generation := rfl

/-- What is held is given back, and then nothing is alive. -/
theorem Sole.retire {r : ProfileRecord} (hr : Sole r) :
    (retire r.held r.ledger).Sound ∧ (ProfileEngine.retire r.held r.ledger).AtMostOne ∧
      (ProfileEngine.retire r.held r.ledger).alive = [] ∧
      (ProfileEngine.retire r.held r.ledger).calls = r.ledger.calls ++ r.ledger.alive.map .destroy := by
  have ha := hr.alive
  rw [retire_eq]
  cases hh : handle? r.held with
  | none =>
    rw [hh] at ha
    exact ⟨hr.sound, hr.atMostOne, ha, by simp [ha]⟩
  | some handle =>
    rw [hh, Option.toList_some] at ha
    refine ⟨hr.sound.destroy (by simp [ha]), hr.atMostOne.destroy handle, ?_, by rw [ha]; rfl⟩
    rw [Ledger.alive_destroy, ha]
    simp

theorem Sole.pass {r : ProfileRecord} (hr : Sole r) (factory : Factory ProfileParams)
    (wanted : Option ProfileSet) : Sole (r.pass trade factory wanted) := by
  obtain ⟨hs, ho, ha, -⟩ := hr.retire
  rcases pass_cases factory wanted r.held r.ledger with ⟨set, params, -, hp, -, h⟩ | ⟨-, h⟩
  · have alive := hs.alive_create factory params
    rw [ha] at alive
    simp only [Record.pass, trade, h]
    exact ⟨hs.create factory params, ho.create hs ha factory params, alive, rfl, rfl,
      fun x hx => by cases hx; exact hp, rfl⟩
  · simp only [Record.pass, trade, h]
    exact ⟨hs, ho, ha, rfl, rfl, fun x hx => (by cases hx), rfl⟩

/-- A handle is alive exactly while the view is running. -/
theorem Sole.alive_iff {r : ProfileRecord} (hr : Sole r) :
    r.ledger.alive ≠ [] ↔ r.view.value.outcome = some .running := by
  rw [hr.alive, hr.outcome]
  cases r.held with
  | none => simp [handle?]
  | some h =>
    obtain ⟨set, resource⟩ := h
    cases resource <;> simp [handle?, HeldProfile.status, Except.toOption]

/-- What a pass comes to, by the invariant before and after it. -/
theorem Sole.passed {r : ProfileRecord} (hr : Sole r) (factory : Factory ProfileParams)
    (wanted : Option ProfileSet) : Passed r wanted (r.pass trade factory wanted) := by
  obtain ⟨-, -, -, hc⟩ := hr.retire
  have after := hr.pass factory wanted
  have held : ∀ h, (r.pass trade factory wanted).held = some h → wanted = some h.set := by
    intro h hh
    rcases pass_cases factory wanted r.held r.ledger with ⟨set, params, hw, -, -, hpass⟩ | ⟨-, hpass⟩ <;>
      simp only [Record.pass, trade, hpass] at hh <;> cases hh
    exact hw
  refine ⟨?_, after.alive_iff, ?_, fun set hset => ?_, ?_, ?_⟩
  · rcases pass_cases factory wanted r.held r.ledger with ⟨set, params, -, -, hq, h⟩ | ⟨hq, h⟩
    · refine ⟨((ProfileEngine.retire r.held r.ledger).create factory params).2, ?_⟩
      simp only [Record.pass, trade, h, hq, ← hc]
      rfl
    · refine ⟨.error "", ?_⟩
      simp only [Record.pass, trade, h, hq, ← hc]
      simp
  · rw [after.config, after.outcome, Option.isSome_map, Option.isSome_map]
  · rw [after.config] at hset
    obtain ⟨h, hh, rfl⟩ := Option.map_eq_some_iff.1 hset
    exact ⟨held h hh, after.resolves h hh⟩
  · rw [ProfileView.activeEndpoint]
    split
    · rename_i hrun
      rw [ProfileView.isRunning, after.outcome] at hrun
      rw [after.config]
      cases hh : (r.pass trade factory wanted).held with
      | none => simp [hh] at hrun
      | some h => rw [held h hh]; rfl
    · rfl
  · exact after.generation.trans (congrArg (· + 1) hr.generation.symm)

/-! ## every run -/

theorem sole_run (factory : Factory ProfileParams) (source : Watch ProfileSet) (moves : List (Move ProfileSet)) :
    Sole (World.run trade factory moves (.create trade source)).engine.record :=
  World.record_induction trade factory .initial (fun _ wanted h => h.pass factory wanted) source moves

theorem length_requests_wanted (e : ProfileEngine) (set : ProfileSet) :
    (requests (e.wanted set)).length = if e.isStarted ∧ set.selectedProfile?.isSome then 1 else 0 := by
  rw [Engine.wanted, requests]
  cases e.isStarted <;> cases h : set.selectedProfile? <;> simp [h]

/-- The line that is printed of a view of the engine tells whether it runs. -/
theorem Sole.profile_running {r : ProfileRecord} (hr : Sole r) (hrun : r.view.value.isRunning = true) (color : Bool) :
    ∃ name port, Report.profile ⟨.text, color⟩ r.view.value =
      Report.runningLine r.view.value.generation name port := by
  cases hh : r.held with
  | none => simp [ProfileView.isRunning, hr.outcome, hh] at hrun
  | some h =>
    obtain ⟨p, hp⟩ := Option.isSome_iff_exists.1 (hr.resolves h hh)
    have hconfig : r.view.value.configUsed = some h.set := by rw [hr.config, hh]; rfl
    have hout : r.view.value.outcome = some .running := by
      rw [ProfileView.isRunning, hr.outcome, hh] at hrun
      rw [hr.outcome, hh]
      obtain ⟨set, resource⟩ := h
      cases resource with
      | ok _ => rfl
      | error _ => simp [HeldProfile.status, Status.isRunning] at hrun
    exact ⟨p.name, h.set.apiServerPort, Report.profile_of_running hout hconfig hp color⟩

/-- **One handle at a time, and a view that tells of it**, in every run and whatever the factory answers. At no
time during the calls, also inside a pass, are two handles alive. Every pass of every move is what `Passed` says:
it gives back the handle that is alive and only then asks for one, once if the engine is started and the selection
names a profile of the set and else not at all; afterwards a handle is alive exactly if the view is running, and the
view names the set of the pass, its endpoint and the next generation. So the line that is printed of the view is
never the idle one while it is running, nor the running one while it is not. -/
theorem run_keeps_one_handle (factory : Factory ProfileParams) (source : Watch ProfileSet)
    (moves : List (Move ProfileSet)) :
    let w := World.run trade factory moves (.create trade source)
    let view := w.engine.view.value
    (∀ before, before <+: w.engine.ledger.calls → (⟨before⟩ : Ledger ProfileParams).alive.length ≤ 1) ∧
      (∀ m done wanted rest, w.passes m = done ++ wanted :: rest →
        let before := done.foldl (Record.pass trade factory) w.engine.record
        Passed before wanted (before.pass trade factory wanted)) ∧
      (∀ m, (w.step trade factory m).engine.record =
        (w.passes m).foldl (Record.pass trade factory) w.engine.record) ∧
      (∀ set, (requests (w.engine.wanted set)).length =
        if w.engine.isStarted ∧ set.selectedProfile?.isSome then 1 else 0) ∧
      (w.engine.ledger.alive ≠ [] ↔ view.outcome = some .running) ∧
      (∀ color, view.isRunning = true →
        (∃ name port, Report.profile ⟨.text, color⟩ view = Report.runningLine view.generation name port) ∧
          ∀ generation, Report.profile ⟨.text, color⟩ view ≠ Report.idleLine generation) ∧
      ∀ color, view.isRunning = false → ∀ generation name port,
        Report.profile ⟨.text, color⟩ view ≠ Report.runningLine generation name port := by
  intro w view
  have hw : Sole w.engine.record := sole_run factory source moves
  refine ⟨hw.atMostOne, fun m done wanted rest _ => ?_, World.record_step trade factory w,
    length_requests_wanted w.engine, hw.alive_iff, fun color hrun => ?_, fun color hidle generation name port => ?_⟩
  · have before : Sole (done.foldl (Record.pass trade factory) w.engine.record) :=
      Record.foldl_keeps trade factory (fun _ wanted h => h.pass factory wanted) hw done
    exact before.passed factory wanted
  · obtain ⟨name, port, hline⟩ := hw.profile_running hrun color
    have hline : Report.profile ⟨.text, color⟩ view = Report.runningLine view.generation name port := hline
    exact ⟨⟨name, port, hline⟩, fun generation => hline ▸ Report.runningLine_ne_idleLine _ generation name port⟩
  · exact Report.profile_ne_runningLine hidle color generation name port

end ProfileEngine

end ProxyKeeper

/-
The sockets of the engine of profiles over listeners.

An attempt binds two ports, so it can fail halfway. What it asks of the
system is written out call by call (`bindPorts`), and so is what a whole ledger
asks (`systemCalls`): the sockets that are open are read from these calls
alone (`openAfter`), not from the handles that are alive. That the two agree
is the invariant (`Bound`). Others hold sockets beside the engine, at each
attempt perhaps different ones (`profilesBeside`).

In a pass the pair that is held is closed before the next is bound
(`Bound.retire`), so the engine is never in its own way: whatever ports it had,
an attempt for valid ports that no other holds succeeds (`bindPorts_eq_ok`).
-/
import ProxyKeeper.Proofs.Engine.SingleHandle
import ProxyKeeper.Proofs.Engine.Sockets
import ProxyKeeper.Proofs.Store.Profiles

namespace ProxyKeeper

open Net

deriving instance ReflBEq, LawfulBEq for Net.SocketAddress

namespace Listeners

/-! ## calls to the system -/

/-- What a process asks of the system, and whether it was granted. -/
inductive SystemCall where
  | bind (address : SocketAddress) (granted : Bool)
  | close (address : SocketAddress)
  deriving DecidableEq

/-- The open sockets of a process after one more call. -/
def SystemCall.apply (sockets : List SocketAddress) : SystemCall → List SocketAddress
  | .bind address granted => if granted then sockets ++ [address] else sockets
  | .close address => sockets.erase address

/-- The open sockets of a process after its calls. -/
def openAfter (calls : List SystemCall) : List SocketAddress := calls.foldl SystemCall.apply []

/-- The calls of one attempt beside what is bound already, and its outcome. A first listener goes out of use as the
attempt ends without the second. -/
def bindPorts (bound : List SocketAddress) (p : ProfileParams) : List SystemCall × Except String Unit :=
  let http := loopback p.httpProxyPort
  let socks5 := loopback p.socks5ProxyPort
  if isFree bound http then
    if isFree (http :: bound) socks5 then ([.bind http true, .bind socks5 true], .ok ())
    else ([.bind http true, .bind socks5 false, .close http],
      .error s!"cannot bind SOCKS5 proxy port {p.socks5ProxyPort}: {inUse}")
  else ([.bind http false], .error s!"cannot bind HTTP proxy port {p.httpProxyPort}: {inUse}")

/-- The listeners of profiles on a machine where others hold sockets too; which, may be different after each call. -/
def profilesBeside (others : List (FactoryCall ProfileParams) → List SocketAddress) : Factory ProfileParams where
  attempt calls := (profiles (others calls)).attempt calls

/-- Where the others keep what they have, it is the listener of the program. -/
theorem profilesBeside_const (taken : List SocketAddress) : profilesBeside (fun _ => taken) = profiles taken := rfl

/-- The calls to the system behind a call to the factory. A handle that is given back takes the listeners with it
that it was made from. -/
def behind (others own : List SocketAddress) (earlier : List (FactoryCall ProfileParams)) :
    FactoryCall ProfileParams → List SystemCall
  | .create params _ => (bindPorts (others ++ own) params).1
  | .destroy handle =>
    match (Ledger.issued ⟨earlier⟩).find? (·.1 == handle) with
    | some (_, params) => (proxySockets params).map .close
    | none => []

/-- The calls to the system behind the calls to the factory. -/
def systemCalls (others : List (FactoryCall ProfileParams) → List SocketAddress)
    (calls : List (FactoryCall ProfileParams)) : List SystemCall :=
  (calls.foldl (fun (earlier, system) call =>
    (earlier ++ [call], system ++ behind (others earlier) (openAfter system) earlier call)) ([], [])).2

variable {others : List (FactoryCall ProfileParams) → List SocketAddress}

theorem openAfter_append (a b : List SystemCall) : openAfter (a ++ b) = b.foldl SystemCall.apply (openAfter a) :=
  List.foldl_append

theorem systemCalls_concat (calls : List (FactoryCall ProfileParams)) (call : FactoryCall ProfileParams) :
    systemCalls others (calls ++ [call]) = systemCalls others calls ++
      behind (others calls) (openAfter (systemCalls others calls)) calls call := by
  have all : ∀ earlier system,
      (calls.foldl (fun (earlier, system) call =>
        (earlier ++ [call], system ++ behind (others earlier) (openAfter system) earlier call))
          (earlier, system)).1 = earlier ++ calls := by
    induction calls with
    | nil => simp
    | cons c rest ih => exact fun earlier system => (ih _ _).trans (List.append_assoc _ _ _)
  simp only [systemCalls, List.foldl_append, List.foldl_cons, List.foldl_nil, all, List.nil_append]

/-! ## one attempt -/

theorem attempt_profiles (taken : List SocketAddress) (calls : List (FactoryCall ProfileParams)) (p : ProfileParams) :
    (profiles taken).attempt calls p = (bindPorts (taken ++ profileSockets calls) p).2 := by
  simp only [profiles, bindPorts]
  cases isFree (taken ++ profileSockets calls) (loopback p.httpProxyPort) with
  | false => rfl
  | true =>
    cases isFree (loopback p.httpProxyPort :: (taken ++ profileSockets calls)) (loopback p.socks5ProxyPort) <;> rfl

/-- An attempt leaves both sockets open or none. -/
theorem openAfter_bindPorts {system : List SystemCall} (h : openAfter system = []) (bound : List SocketAddress)
    (p : ProfileParams) : openAfter (system ++ (bindPorts bound p).1) =
      if (bindPorts bound p).2.isOk then proxySockets p else [] := by
  rw [openAfter_append, h, bindPorts]
  split
  · split
    · rfl
    · simp [SystemCall.apply, Except.isOk, Except.toBool]
  · rfl

theorem overlaps_loopback (a b : UInt16) : overlaps (loopback a) (loopback b) = (a != 0 && a == b) := by
  simp [overlaps, loopback, SocketAddress.port]

/-- Two ports that are free, and not the same, are both granted. -/
theorem bindPorts_eq_ok {bound : List SocketAddress} {p : ProfileParams}
    (http : isFree bound (loopback p.httpProxyPort) = true) (socks5 : isFree bound (loopback p.socks5ProxyPort) = true)
    (distinct : p.httpProxyPort ≠ p.socks5ProxyPort) : (bindPorts bound p).2 = .ok () := by
  have beside : isFree (loopback p.httpProxyPort :: bound) (loopback p.socks5ProxyPort) = true := by
    rw [isFree, List.any_cons, overlaps_loopback, beq_false_of_ne (Ne.symm distinct), Bool.and_false, Bool.false_or]
    exact socks5
  rw [bindPorts, if_pos http, if_pos beside]

end Listeners

/-! ## the ledger -/

namespace Ledger

variable {P : Type} {l : Ledger P}

/-- The calls once all that is alive is given back. -/
def emptied (l : Ledger P) : List (FactoryCall P) := l.calls ++ l.alive.map .destroy

theorem Sound.find?_issued (hl : l.Sound) {h : Nat} {params : P} (hm : (h, params) ∈ l.issued) :
    l.issued.find? (·.1 == h) = some (h, params) := by
  cases hf : l.issued.find? (·.1 == h) with
  | none => exact absurd (List.find?_eq_none.1 hf _ hm) (by simp)
  | some made =>
    obtain ⟨h', other⟩ := made
    have hh : h' = h := by simpa using List.find?_some hf
    subst hh
    rw [hl.eq_of_mem_issued (List.mem_of_find?_eq_some hf) hm]

theorem profileSockets_of_alive {l : Ledger ProfileParams} (h : l.alive = []) :
    Listeners.profileSockets l.calls = [] := by
  rw [← map_fst_lent, List.map_eq_nil_iff] at h
  rw [Listeners.profileSockets, ← map_snd_lent, h]
  rfl

end Ledger

/-! ## the invariant -/

namespace ProfileEngine

open Listeners

variable {others : List (FactoryCall ProfileParams) → List SocketAddress} {r : ProfileRecord}

/-- The listeners for the two proxy ports of a set. -/
def listeners (set : ProfileSet) : List SocketAddress :=
  [loopback set.httpProxyPort, loopback set.socks5ProxyPort]

/-- The listeners of what is held. -/
def listenersOf : Option HeldProfile → List SocketAddress
  | some ⟨set, .ok _⟩ => listeners set
  | some ⟨_, .error _⟩ | none => []

/-- The sockets that are open are those of what is held. -/
structure Bound (others : List (FactoryCall ProfileParams) → List SocketAddress) (r : ProfileRecord) : Prop
    extends Sole r where
  made : ∀ {set h}, r.held = some ⟨set, .ok h⟩ → ∃ params, (h, params) ∈ r.ledger.issued ∧
    proxySockets params = listeners set
  sockets : openAfter (systemCalls others r.ledger.calls) = listenersOf r.held

theorem Bound.initial : Bound others (.initial trade) where
  toSole := .initial
  made h := by cases h
  sockets := rfl

theorem Sole.calls_retire (hr : Sole r) : (ProfileEngine.retire r.held r.ledger).calls = r.ledger.emptied :=
  hr.retire.2.2.2

/-- Once what is held is given back, no socket is open. -/
theorem Bound.closed (hr : Bound others r) : openAfter (systemCalls others r.ledger.emptied) = [] := by
  have sockets := hr.sockets
  rw [← hr.toSole.calls_retire]
  cases hh : r.held with
  | none => rwa [hh] at sockets
  | some held =>
    obtain ⟨set, resource⟩ := held
    rw [hh] at sockets
    cases resource with
    | error message => exact sockets
    | ok h =>
      obtain ⟨params, hm, hp⟩ := hr.made hh
      have found : (Ledger.issued ⟨r.ledger.calls⟩).find? (·.1 == h) = some (h, params) := hr.sound.find?_issued hm
      have close : behind (others r.ledger.calls) (listeners set) r.ledger.calls (.destroy h) =
          (listeners set).map .close := by
        simp only [behind, found, hp]
      rw [retire, Ledger.destroy, systemCalls_concat, openAfter_append, sockets, listenersOf, close]
      simp [listeners, SystemCall.apply]

/-! ## one pass -/

theorem requests_of_selected {set : ProfileSet} (h : set.selectedProfile?.isSome) :
    ∃ params, requests (some set) = [params] := by
  obtain ⟨p, hp⟩ := Option.isSome_iff_exists.1 h
  exact ⟨_, by rw [requests, Option.bind_some, hp]; rfl⟩

/-- What a pass asks for has the ports of its set. -/
theorem ports_of_requests {set : ProfileSet} {params : ProfileParams} (h : requests (some set) = [params]) :
    params.httpProxyPort = set.httpProxyPort ∧ params.socks5ProxyPort = set.socks5ProxyPort := by
  rw [requests, Option.bind_some] at h
  cases hp : set.selectedProfile? with
  | none => simp [hp] at h
  | some p =>
    rw [hp] at h
    cases h
    exact ⟨rfl, rfl⟩

theorem proxySockets_of_requests {set : ProfileSet} {params : ProfileParams} (h : requests (some set) = [params]) :
    proxySockets params = listeners set := by
  obtain ⟨http, socks5⟩ := ports_of_requests h
  rw [proxySockets, listeners, http, socks5]

/-- The outcome of an attempt is that of its calls to the system. -/
theorem create_retire (hr : Sole r) (params : ProfileParams) :
    ((retire r.held r.ledger).create (profilesBeside others) params).2 =
      (bindPorts (others r.ledger.emptied) params).2.map fun () => (retire r.held r.ledger).nextHandle := by
  have attempt : (profilesBeside others).attempt (retire r.held r.ledger).calls params =
      (bindPorts (others r.ledger.emptied) params).2 := by
    rw [profilesBeside, attempt_profiles, Ledger.profileSockets_of_alive hr.retire.2.2.1, List.append_nil,
      hr.calls_retire]
  rw [Ledger.create, attempt]

theorem listenersOf_create (hr : Sole r) {set : ProfileSet} {params : ProfileParams}
    (ports : proxySockets params = listeners set) :
    listenersOf (some ⟨set, ((retire r.held r.ledger).create (profilesBeside others) params).2⟩) =
      if (bindPorts (others r.ledger.emptied) params).2.isOk then proxySockets params else [] := by
  rw [create_retire hr]
  cases (bindPorts (others r.ledger.emptied) params).2 with
  | error message => rfl
  | ok _ => exact ports.symm

/-- The calls to the system in a pass with an attempt: what is held is closed, then the attempt is made. -/
theorem systemCalls_pass (hr : Bound others r) {set : ProfileSet} {params : ProfileParams}
    (hq : requests (some set) = [params]) :
    systemCalls others (r.pass trade (profilesBeside others) (some set)).ledger.calls =
      systemCalls others r.ledger.emptied ++ (bindPorts (others r.ledger.emptied) params).1 := by
  obtain ⟨outcome, calls⟩ := (hr.toSole.passed (profilesBeside others) (some set)).calls
  rw [calls, hq, List.map_singleton, systemCalls_concat, ← Ledger.emptied, hr.closed, behind, List.append_nil]

theorem Bound.pass (hr : Bound others r) (wanted : Option ProfileSet) :
    Bound others (r.pass trade (profilesBeside others) wanted) := by
  have sole := hr.toSole.pass (profilesBeside others) wanted
  rcases pass_cases (profilesBeside others) wanted r.held r.ledger with
    ⟨set, params, rfl, -, hq, h⟩ | ⟨-, h⟩
  · have ports := proxySockets_of_requests hq
    have held : (r.pass trade (profilesBeside others) (some set)).held =
        some ⟨set, ((retire r.held r.ledger).create (profilesBeside others) params).2⟩ := congrArg (·.1) h
    have ledger : (r.pass trade (profilesBeside others) (some set)).ledger =
        ((retire r.held r.ledger).create (profilesBeside others) params).1 := congrArg (·.2) h
    refine ⟨sole, fun {set' handle} hheld => ?_, ?_⟩
    · obtain ⟨rfl, ho⟩ : set = set' ∧
          ((retire r.held r.ledger).create (profilesBeside others) params).2 = .ok handle := by
        simpa using held.symm.trans hheld
      refine ⟨params, ?_, ports⟩
      rw [ledger, Ledger.issued_create, ho]
      exact List.mem_append_right _ (List.mem_singleton_self _)
    · rw [held, listenersOf_create hr.toSole ports, systemCalls_pass hr hq]
      exact openAfter_bindPorts hr.closed _ params
  · refine ⟨sole, fun {set handle} hheld => ?_, ?_⟩ <;> simp only [Record.pass, trade, h] at *
    · cases hheld
    · rw [hr.toSole.calls_retire]
      exact hr.closed

/-- A pass with an attempt fails as its calls to the system do, and else it is running. -/
theorem outcome_pass (hr : Sole r) {set : ProfileSet} {params : ProfileParams} (hq : requests (some set) = [params]) :
    (r.pass trade (profilesBeside others) (some set)).view.value.outcome =
      match (bindPorts (others r.ledger.emptied) params).2 with
      | .ok _ => some .running
      | .error message => some (.failed message) := by
  rcases pass_cases (profilesBeside others) (some set) r.held r.ledger with
    ⟨set', params', hset, -, hq', h⟩ | ⟨hq', -⟩
  · cases hset
    obtain rfl : params = params' := by simpa using hq.symm.trans hq'
    have held : (r.pass trade (profilesBeside others) (some set)).held =
        some ⟨set, ((retire r.held r.ledger).create (profilesBeside others) params).2⟩ := congrArg (·.1) h
    rw [(hr.pass (profilesBeside others) (some set)).outcome, held, create_retire hr]
    cases (bindPorts (others r.ledger.emptied) params).2 <;> rfl
  · cases hq.symm.trans hq'

/-- An attempt that gets its HTTP port but not its SOCKS5 port closes the one that it got. -/
theorem Bound.halfway (hr : Bound others r) {set : ProfileSet} (hs : set.selectedProfile?.isSome)
    (http : isFree (others r.ledger.emptied) (loopback set.httpProxyPort) = true)
    (socks5 : isFree (loopback set.httpProxyPort :: others r.ledger.emptied) (loopback set.socks5ProxyPort) = false) :
    systemCalls others (r.pass trade (profilesBeside others) (some set)).ledger.calls =
        systemCalls others r.ledger.emptied ++
          [.bind (loopback set.httpProxyPort) true, .bind (loopback set.socks5ProxyPort) false,
            .close (loopback set.httpProxyPort)] ∧
      (r.pass trade (profilesBeside others) (some set)).view.value.outcome =
        some (.failed s!"cannot bind SOCKS5 proxy port {set.socks5ProxyPort}: {inUse}") := by
  obtain ⟨params, hq⟩ := requests_of_selected hs
  obtain ⟨hhttp, hsocks5⟩ := ports_of_requests hq
  rw [systemCalls_pass hr hq, outcome_pass hr.toSole hq, bindPorts, hhttp, hsocks5, if_pos http,
    if_neg (Bool.eq_false_iff.1 socks5)]
  exact ⟨rfl, rfl⟩

theorem selected_of_valid {set : ProfileSet} (hv : set.Valid) (hs : set.selected.isSome) :
    set.selectedProfile?.isSome := by
  obtain ⟨id, hid⟩ := Option.isSome_iff_exists.1 hs
  have known : id ∈ set.ids := hv.selected id hid
  rw [ProfileSet.selectedProfile?, hid, Option.bind_some, ← Option.not_isNone, Bool.not_eq_true',
    ← Bool.not_eq_true, ProfileSet.isNone_profile?_iff]
  exact fun h => h known

/-- A pass for a valid set gets its ports if no other holds one of them. -/
theorem running_pass (hr : Sole r) {set : ProfileSet} (hv : set.Valid) (hs : set.selected.isSome)
    (http : isFree (others r.ledger.emptied) (loopback set.httpProxyPort) = true)
    (socks5 : isFree (others r.ledger.emptied) (loopback set.socks5ProxyPort) = true) :
    (r.pass trade (profilesBeside others) (some set)).view.value.outcome = some .running := by
  obtain ⟨params, hq⟩ := requests_of_selected (selected_of_valid hv hs)
  obtain ⟨hhttp, hsocks5⟩ := ports_of_requests hq
  rw [outcome_pass hr hq, bindPorts_eq_ok (hhttp ▸ http) (hsocks5 ▸ socks5) (hhttp ▸ hsocks5 ▸ hv.ports.distinct.1)]

/-! ## every run -/

theorem Bound.foldl_pass (others : List (FactoryCall ProfileParams) → List SocketAddress)
    (done : List (Option ProfileSet)) :
    Bound others (done.foldl (Record.pass trade (profilesBeside others)) (.initial trade)) :=
  Record.foldl_keeps trade (profilesBeside others) (fun _ wanted h => h.pass wanted) .initial done

theorem Sole.held_of_running (hr : Sole r) (hrun : r.view.value.isRunning = true) :
    ∃ set h, r.held = some ⟨set, .ok h⟩ := by
  rw [ProfileView.isRunning, hr.outcome] at hrun
  cases hh : r.held with
  | none => simp [hh] at hrun
  | some held =>
    obtain ⟨set, resource⟩ := held
    cases resource with
    | error message => simp [hh, HeldProfile.status, Status.isRunning] at hrun
    | ok h => exact ⟨set, h, rfl⟩

theorem Bound.sockets_of_not_running (hr : Bound others r) (hidle : r.view.value.isRunning = false) :
    openAfter (systemCalls others r.ledger.calls) = [] := by
  rw [ProfileView.isRunning, hr.outcome] at hidle
  rw [hr.sockets]
  cases hh : r.held with
  | none => rfl
  | some held =>
    obtain ⟨set, resource⟩ := held
    cases resource with
    | error message => rfl
    | ok h => simp [hh, HeldProfile.status, Status.isRunning] at hidle

/-- A set that is shown as used is that of the last pass. -/
theorem getLast?_of_configUsed (factory : Factory ProfileParams) {done : List (Option ProfileSet)} {set : ProfileSet}
    (h : (done.foldl (Record.pass trade factory) (.initial trade)).view.value.configUsed = some set) :
    done.getLast? = some (some set) := by
  rcases List.eq_nil_or_concat done with rfl | ⟨earlier, last, rfl⟩
  · cases h
  · rw [List.concat_eq_append, List.foldl_append] at h
    have before : Sole (earlier.foldl (Record.pass trade factory) (.initial trade)) :=
      Record.foldl_keeps trade factory (fun _ wanted h => h.pass factory wanted) .initial earlier
    have config : last = some set := ((before.passed factory last).config set h).1
    rw [List.concat_eq_append, List.getLast?_concat, config]

/-- **The engine of profiles has the sockets of what runs**, in every run, between any two of its passes, and whatever
others hold at any time. The sockets that its calls to the system leave open are the two listeners of the set of the
last pass while the view is running, and there are none while it is not. A pass for a set whose HTTP port is granted
but not its SOCKS5 port closes the one that it got, and leaves none open. A pass for a valid set with a selection is
running afterwards if no other holds one of its two ports, whatever ports the engine had before. -/
theorem sockets_are_current_listeners (others : List (FactoryCall ProfileParams) → List SocketAddress)
    (source : Watch ProfileSet) (moves : List (Move ProfileSet)) :
    let factory := profilesBeside others
    let passes := World.passesOf trade factory moves (.create trade source)
    let after (done : List (Option ProfileSet)) := done.foldl (Record.pass trade factory) (.initial trade)
    let sockets (r : ProfileRecord) := openAfter (systemCalls others r.ledger.calls)
    (World.run trade factory moves (.create trade source)).engine.record = after passes ∧
      ∀ done, done <+: passes →
        let before := after done
        let elsewhere := others before.ledger.emptied
        (before.view.value.isRunning = true → ∃ set, done.getLast? = some (some set) ∧
          before.view.value.configUsed = some set ∧
            sockets before = [loopback set.httpProxyPort, loopback set.socks5ProxyPort]) ∧
        (before.view.value.isRunning = false → sockets before = []) ∧
        (∀ set, done ++ [some set] <+: passes → set.selectedProfile?.isSome →
          isFree elsewhere (loopback set.httpProxyPort) = true →
          isFree (loopback set.httpProxyPort :: elsewhere) (loopback set.socks5ProxyPort) = false →
          systemCalls others (after (done ++ [some set])).ledger.calls =
              systemCalls others before.ledger.emptied ++
                [.bind (loopback set.httpProxyPort) true, .bind (loopback set.socks5ProxyPort) false,
                  .close (loopback set.httpProxyPort)] ∧
            sockets (after (done ++ [some set])) = [] ∧
            (after (done ++ [some set])).view.value.outcome =
              some (.failed s!"cannot bind SOCKS5 proxy port {set.socks5ProxyPort}: {inUse}")) ∧
        ∀ set, done ++ [some set] <+: passes → set.validate = .ok () → set.selected.isSome →
          isFree elsewhere (loopback set.httpProxyPort) = true → isFree elsewhere (loopback set.socks5ProxyPort) = true →
          (after (done ++ [some set])).view.value.outcome = some .running := by
  intro factory passes after sockets
  refine ⟨World.record_run trade factory moves _, fun done _ => ?_⟩
  intro before elsewhere
  have hb : Bound others before := .foldl_pass others done
  have next : ∀ set, after (done ++ [some set]) = before.pass trade factory (some set) :=
    fun set => List.foldl_append
  refine ⟨fun hrun => ?_, hb.sockets_of_not_running, fun set _ hs http socks5 => ?_, fun set _ hv hs http socks5 => ?_⟩
  · obtain ⟨set, h, hh⟩ := hb.held_of_running hrun
    have config : before.view.value.configUsed = some set := hb.config.trans (by rw [hh]; rfl)
    exact ⟨set, getLast?_of_configUsed factory config, config, hb.sockets.trans (by rw [hh]; rfl)⟩
  · rw [next]
    obtain ⟨system, failed⟩ := hb.halfway hs http socks5
    have idle : (before.pass trade factory (some set)).view.value.isRunning = false := by
      rw [ProfileView.isRunning, failed]
      rfl
    exact ⟨system, (hb.pass (some set)).sockets_of_not_running idle, failed⟩
  · rw [next]
    exact running_pass hb.toSole (ProfileSet.validate_eq_ok_iff.1 hv) hs http socks5

/-- The two ports are exchanged, and running goes on; then one of them is asked for that another process holds. -/
theorem sockets_of_swapped_ports :
    let set (http socks5 : UInt16) : ProfileSet :=
      { profiles := [.create "p" "home" "https://[::1]"], selected := some "p", httpProxyPort := http
        socks5ProxyPort := socks5 }
    let first := set 8001 8002
    let swapped := set 8002 8001
    let held := set 8002 9000
    let after (sets : List ProfileSet) :=
      (sets.map some).foldl (Record.pass trade (profilesBeside fun _ => [loopback 9000])) (.initial trade)
    let sockets (r : ProfileRecord) := openAfter (systemCalls (fun _ => [loopback 9000]) r.ledger.calls)
    (World.run trade (profiles [loopback 9000]) [.start, .reconcile first, .reconcile swapped, .reconcile held]
      (.create trade { value := {} })).engine.record = after [first, swapped, held] ∧
      sockets (after [first]) = [loopback 8001, loopback 8002] ∧
      swapped.validate = .ok () ∧ (after [first, swapped]).view.value.outcome = some .running ∧
      held.validate = .ok () ∧ sockets (after [first, swapped, held]) = [] := by
  intro set first swapped held after sockets
  have hswapped : swapped.validate = .ok () := by decide +kernel
  have hheld : held.validate = .ok () := by decide +kernel
  obtain ⟨hrun, hbetween⟩ := sockets_are_current_listeners (fun _ => [loopback 9000]) { value := {} }
    [.start, .reconcile first, .reconcile swapped, .reconcile held]
  obtain ⟨hfirst, -, -, hvalid⟩ := hbetween [some first] ⟨_, rfl⟩
  obtain ⟨-, -, hhalfway, -⟩ := hbetween [some first, some swapped] ⟨_, rfl⟩
  obtain ⟨last, hlast, -, hsockets⟩ := hfirst (by decide +kernel)
  cases hlast
  rw [profilesBeside_const] at hrun
  exact ⟨hrun, hsockets, hswapped, hvalid swapped ⟨_, rfl⟩ hswapped rfl rfl rfl, hheld,
    (hhalfway held ⟨[], rfl⟩ rfl rfl rfl).2.1⟩

end ProfileEngine

end ProxyKeeper

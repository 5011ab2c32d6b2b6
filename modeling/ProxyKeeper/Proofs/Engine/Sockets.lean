/-
The sockets of the engine of instances over listeners.

Which addresses ask for one place is the system's affair (`Placement`): on one
system it may be equal addresses only, on another a wildcard takes the port of
every address. All that is used of it is that an address asks for its own
place and for that of its own port only. `Placement.factory` is the listener
on such a system, and the one of the program is an instance (`factory_shared`).

A handle is a socket, so the ledger says which sockets are held (`lent`: the
handles that are alive, each with what it was made from). `Housed` is the
invariant of every run: a running entry is held with the connection that its
handle was made from, and no two sockets ask for one place. In a pass every
release comes before the first request, and what is kept is wanted
(`Current`); so if all that is wanted fits beside each other (`Tenable`) a
record that is created finds its place free, whoever held it before the pass.
-/
import Mathlib.Data.List.Nodup
import Mathlib.Data.List.Pairwise
import ProxyKeeper.Engine.Listeners
import ProxyKeeper.Proofs.Engine.Handles

namespace ProxyKeeper

open Net

deriving instance ReflBEq, LawfulBEq for Net.Ipv4

deriving instance ReflBEq, LawfulBEq for Net.Ipv6

/-! ## what handles were made from -/

namespace Ledger

variable {P : Type} {l : Ledger P}

/-- The handle that a call made, and what it was made from. -/
def issued? : FactoryCall P → Option (Nat × P)
  | .create params (.ok handle) => some (handle, params)
  | .create _ (.error _) | .destroy _ => none

/-- All handles made so far, each with what it was made from. -/
def issued (l : Ledger P) : List (Nat × P) := l.calls.filterMap issued?

/-- The handles that are alive, each with what it was made from. -/
def lent (l : Ledger P) : List (Nat × P) := l.issued.filter fun p => !l.destroyed.contains p.1

theorem mem_lent_iff {p : Nat × P} : p ∈ l.lent ↔ p ∈ l.issued ∧ p.1 ∉ l.destroyed := by simp [lent]

theorem map_fst_issued (l : Ledger P) : l.issued.map (·.1) = l.created := by
  rw [issued, List.map_filterMap, created]
  refine List.filterMap_congr fun call _ => ?_
  cases call with
  | create params outcome => cases outcome <;> rfl
  | destroy handle => rfl

theorem map_fst_lent (l : Ledger P) : l.lent.map (·.1) = l.alive := by
  rw [alive, ← map_fst_issued, List.filter_map]
  rfl

theorem map_snd_lent (l : Ledger P) : l.lent.map (·.2) = FactoryCall.held l.calls := by
  rw [lent, issued, List.filter_filterMap, List.map_filterMap, FactoryCall.held]
  refine List.filterMap_congr fun call _ => ?_
  cases call with
  | create params outcome =>
    cases outcome with
    | error message => rfl
    | ok handle =>
      show ((some (handle, params)).filter fun p => !l.destroyed.contains p.1).map (·.2) =
        if l.destroyed.contains handle then none else some params
      rw [Option.filter_some]
      cases l.destroyed.contains handle <;> rfl
  | destroy handle => rfl

@[simp] theorem issued_destroy (h : Nat) (l : Ledger P) : (l.destroy h).issued = l.issued := by
  simp [destroy, issued, issued?]

theorem issued_create (factory : Factory P) (params : P) (l : Ledger P) :
    (l.create factory params).1.issued =
      l.issued ++ ((l.create factory params).2.toOption.map (·, params)).toList := by
  rw [create_eq]
  simp only [issued, List.filterMap_append]
  rcases create_cases factory params l with ⟨message, h⟩ | h <;> rw [h] <;> rfl

theorem lent_destroy (h : Nat) (l : Ledger P) : (l.destroy h).lent = l.lent.filter (·.1 ≠ h) := by
  simp only [lent, issued_destroy, destroyed_destroy, List.filter_filter]
  refine List.filter_congr fun p _ => ?_
  by_cases hp : p.1 = h <;> simp [hp]

theorem Sound.lent_create (hl : l.Sound) (factory : Factory P) (params : P) :
    (l.create factory params).1.lent =
      l.lent ++ ((l.create factory params).2.toOption.map (·, params)).toList := by
  simp only [lent, issued_create, destroyed_create, List.filter_append]
  congr 1
  rcases create_cases factory params l with ⟨message, h⟩ | h <;> rw [h]
  · rfl
  · have hn : l.nextHandle ∉ l.destroyed := fun hd => hl.nextHandle_fresh (hl.made _ hd)
    simp [Except.toOption, hn]

theorem attempt_of_create {factory : Factory P} {params : P} {h : Nat}
    (hc : (l.create factory params).2 = .ok h) : factory.attempt l.calls params = .ok () := by
  rw [create] at hc
  dsimp only at hc
  cases ha : factory.attempt l.calls params with
  | error message =>
    rw [ha] at hc
    cases hc
  | ok _ => rfl

theorem exists_create_of_attempt {factory : Factory P} {params : P}
    (h : factory.attempt l.calls params = .ok ()) : ∃ handle, (l.create factory params).2 = .ok handle :=
  ⟨l.nextHandle, by simp only [create, h]; rfl⟩

/-- A handle was made from one thing. -/
theorem Sound.eq_of_mem_issued (hl : l.Sound) {h : Nat} {a b : P} (ha : (h, a) ∈ l.issued)
    (hb : (h, b) ∈ l.issued) : a = b := by
  have hn : (l.issued.map (·.1)).Nodup := map_fst_issued l ▸ hl.created_nodup
  exact congrArg (·.2) (List.inj_on_of_nodup_map hn ha hb rfl)

end Ledger

/-! ## systems -/

namespace Listeners

/-- How a system tells whether two addresses ask for one place. -/
structure Placement where
  same : SocketAddress → SocketAddress → Bool
  refl : ∀ a, same a a = true
  symm : ∀ {a b}, same a b = true → same b a = true
  port : ∀ {a b}, same a b = true → a.port = b.port

namespace Placement

/-- Whether the place of the first address is taken by the second; that of port zero never is. -/
def taken (system : Placement) (a b : SocketAddress) : Bool := a.port != 0 && system.same a b

/-- Binds the address of each instance, where nobody else binds any. -/
def factory (system : Placement) : Factory Connection where
  attempt calls c :=
    match c.socketAddress with
    | .error failure => .error failure.message
    | .ok address =>
      if (instanceSockets calls).any (system.taken address) then
        .error s!"cannot bind {address.render}: {inUse}"
      else .ok ()

/-- A place for every address. -/
def exact : Placement where
  same a b := decide (a = b)
  refl _ := decide_eq_true rfl
  symm h := decide_eq_true (of_decide_eq_true h).symm
  port h := congrArg SocketAddress.port (of_decide_eq_true h)

theorem overlaps_symm {a b : SocketAddress} (h : overlaps a b = true) : overlaps b a = true := by
  cases a <;> cases b <;> simp_all [overlaps, SocketAddress.port] <;> grind

/-- One place for all addresses that overlap. -/
def shared : Placement where
  same a b := decide (a = b) || overlaps a b
  refl _ := by simp
  symm h := by
    rw [Bool.or_eq_true, decide_eq_true_iff] at h ⊢
    exact h.imp Eq.symm overlaps_symm
  port {a b} h := by
    rw [Bool.or_eq_true, decide_eq_true_iff] at h
    rcases h with rfl | h
    · rfl
    · simp only [overlaps, Bool.and_eq_true, beq_iff_eq] at h
      exact h.1.2

theorem overlaps_self {a : SocketAddress} (h : a.port ≠ 0) : overlaps a a = true := by
  cases a <;> simp [overlaps, h]

theorem taken_shared (a b : SocketAddress) : shared.taken a b = overlaps a b := by
  by_cases hp : a.port = 0
  · simp [taken, overlaps, hp]
  · by_cases hab : a = b
    · subst hab
      simp [taken, shared, hp, overlaps_self hp]
    · simp [taken, shared, hp, hab]

/-- The listener of the program is the one on a system where wildcards take every address of their port. -/
theorem factory_shared : shared.factory = instances [] := by
  simp only [factory, instances, isFree, List.nil_append]
  congr 1
  funext calls c
  cases c.socketAddress with
  | error failure => rfl
  | ok address =>
    have hany : (instanceSockets calls).any (shared.taken address) = (instanceSockets calls).any (overlaps address) :=
      congrArg _ (funext (taken_shared address))
    simp only [hany, Bool.not_eq_true']
    cases (instanceSockets calls).any (overlaps address) <;> rfl

end Placement

end Listeners

/-! ## the invariant -/

namespace InstanceEngine

open Listeners

variable {system : Placement} {stock : Stock}

/-- The address at which a connection is listened to. -/
def addressOf (c : Connection) : Option SocketAddress := SocketAddress.parse? c.bindAddress

/-- The sockets of two connections may be held at a time. -/
def Compatible (system : Placement) (c d : Connection) : Prop :=
  ∀ a b, addressOf c = some a → addressOf d = some b → system.taken a b = false

instance (system : Placement) (c d : Connection) : Decidable (Compatible system c d) :=
  decidable_of_iff (∀ a ∈ addressOf c, ∀ b ∈ addressOf d, system.taken a b = false)
    ⟨fun h a b ha hb => h a ha b hb, fun h a ha b hb => h a b ha hb⟩

theorem Compatible.symm {c d : Connection} (h : Compatible system c d) : Compatible system d c := by
  intro a b ha hb
  have hba := h b a hb ha
  simp only [Placement.taken, Bool.and_eq_false_iff] at hba ⊢
  by_cases hab : system.same a b = true
  · have hp := system.port hab
    rw [hp]
    exact hba.imp_right fun hn => absurd (system.symm hab) (Bool.eq_false_iff.1 hn)
  · exact .inr (Bool.eq_false_iff.2 hab)

/-- Every running entry has the socket that its connection asks for, and all sockets fit beside each other. -/
structure Housed (system : Placement) (stock : Stock) : Prop extends Owns stock where
  /-- What is held was made from the connection that it is held with. -/
  made : ∀ {id c h}, stock.1.get? id = some ⟨c, .ok h⟩ → (h, c) ∈ stock.2.issued
  bound : ∀ p ∈ stock.2.lent, ∃ address, addressOf p.2 = some address
  compatible : stock.2.lent.Pairwise fun p q => Compatible system p.2 q.2

theorem Housed.empty : Housed system (∅, .empty) where
  toOwns := .empty
  made h := by cases h
  bound p hp := by cases hp
  compatible := .nil

/-- The handles that are alive are those of the entries, with their connections. -/
theorem Housed.mem_lent_iff (hs : Housed system stock) {h : Nat} {c : Connection} :
    (h, c) ∈ stock.2.lent ↔ ∃ id, stock.1.get? id = some ⟨c, .ok h⟩ := by
  constructor
  · intro hm
    have ha : h ∈ stock.2.alive := Ledger.map_fst_lent stock.2 ▸ List.mem_map_of_mem hm
    obtain ⟨id, d, hd⟩ := (hs.alive_iff h).1 ha
    have hc : d = c := hs.sound.eq_of_mem_issued (hs.made hd) (Ledger.mem_lent_iff.1 hm).1
    exact ⟨id, hc ▸ hd⟩
  · rintro ⟨id, hid⟩
    have ha : h ∈ stock.2.alive := (hs.alive_iff h).2 ⟨id, c, hid⟩
    exact Ledger.mem_lent_iff.2 ⟨hs.made hid, (Ledger.mem_alive_iff.1 ha).2⟩

theorem Housed.retire (hs : Housed system stock) (id : String) : Housed system (retire stock id) := by
  have ledger : (InstanceEngine.retire stock id).2.issued = stock.2.issued ∧
      (InstanceEngine.retire stock id).2.lent.Sublist stock.2.lent := by
    simp only [InstanceEngine.retire]
    split
    · exact ⟨rfl, .refl _⟩
    · dsimp only
      split
      · exact ⟨Ledger.issued_destroy _ _, Ledger.lent_destroy _ _ ▸ List.filter_sublist⟩
      · exact ⟨rfl, .refl _⟩
  refine ⟨hs.toOwns.retire id, fun {x c h} hx => ?_, fun p hp => hs.bound p (ledger.2.subset hp),
    hs.compatible.sublist ledger.2⟩
  rw [get?_retire] at hx
  split at hx
  · cases hx
  · exact ledger.1 ▸ hs.made hx

/-- A handle is made only for an address that can be read and that no socket takes. -/
theorem of_attempt_eq_ok {calls : List (FactoryCall Connection)} {c : Connection}
    (h : system.factory.attempt calls c = .ok ()) : ∃ address, addressOf c = some address ∧
      ∀ d ∈ FactoryCall.held calls, Compatible system c d := by
  simp only [Placement.factory, Connection.socketAddress] at h
  cases ha : SocketAddress.parse? c.bindAddress with
  | none => simp [ha] at h
  | some address =>
    refine ⟨address, ha, fun d hd a b hca hdb => ?_⟩
    have hca : address = a := Option.some.inj (ha.symm.trans hca)
    have hb : b ∈ instanceSockets calls := List.mem_filterMap.2 ⟨d, hd, hdb⟩
    rw [ha] at h
    dsimp only at h
    split at h
    · cases h
    · rename_i hfree
      rw [List.any_eq_true] at hfree
      rw [← hca]
      exact Bool.eq_false_iff.2 fun ht => hfree ⟨b, hb, ht⟩

theorem Housed.build (hs : Housed system stock) {i : Instance} (free : stock.1.get? i.id = none) :
    Housed system (build system.factory stock i) := by
  have owns := hs.toOwns.build system.factory free
  have lent : (InstanceEngine.build system.factory stock i).2.lent = _ :=
    hs.sound.lent_create system.factory i.connection
  have issued : (InstanceEngine.build system.factory stock i).2.issued = _ :=
    Ledger.issued_create system.factory i.connection stock.2
  cases ho : (stock.2.create system.factory i.connection).2 with
  | error message =>
    rw [ho] at lent issued
    simp only [Except.toOption, Option.map_none, Option.toList_none, List.append_nil] at lent issued
    refine ⟨owns, fun {x c h} hx => ?_, lent ▸ hs.bound, lent ▸ hs.compatible⟩
    rw [get?_build, ho] at hx
    split at hx
    · cases hx
    · exact issued ▸ hs.made hx
  | ok handle =>
    rw [ho] at lent issued
    simp only [Except.toOption, Option.map_some, Option.toList_some] at lent issued
    obtain ⟨address, haddress, beside⟩ := of_attempt_eq_ok (Ledger.attempt_of_create ho)
    refine ⟨owns, fun {x c h} hx => ?_, fun p hp => ?_, ?_⟩
    · rw [get?_build, ho] at hx
      rw [issued, List.mem_append]
      split at hx
      · cases hx
        exact .inr (List.mem_singleton_self _)
      · exact .inl (hs.made hx)
    · rw [lent, List.mem_append, List.mem_singleton] at hp
      obtain hp | rfl := hp
      · exact hs.bound p hp
      · exact ⟨address, haddress⟩
    · rw [lent, List.pairwise_append]
      refine ⟨hs.compatible, List.pairwise_singleton _ _, fun p hp q hq => ?_⟩
      rw [List.mem_singleton.1 hq]
      refine (beside p.2 ?_).symm
      rw [← Ledger.map_snd_lent]
      exact List.mem_map_of_mem hp

theorem Housed.foldl_build {instances : List Instance} (hs : Housed system stock)
    (free : ∀ before i after, instances = before ++ i :: after →
      (before.foldl (InstanceEngine.build system.factory) stock).1.get? i.id = none) :
    Housed system (instances.foldl (InstanceEngine.build system.factory) stock) := by
  induction instances generalizing stock with
  | nil => exact hs
  | cons i rest ih =>
    refine ih (hs.build (free [] i rest rfl)) fun before j after h => ?_
    exact free (i :: before) j after (by rw [h]; rfl)

theorem Housed.cleared (hs : Housed system stock) (wanted : Option (List Instance)) :
    Housed system (cleared wanted stock) :=
  List.foldlRecOn _ _ hs fun _ h id _ => h.retire id

theorem Housed.pass (hs : Housed system stock) (wanted : Option (List Instance)) :
    Housed system (pass system.factory wanted stock) := by
  rw [pass_eq]
  exact (hs.cleared wanted).foldl_build fun _ _ _ h => get?_create_free system.factory stock h

/-! ## what is wanted finds its place -/

/-- What a snapshot wants can be listened to, all of it at a time. -/
structure Tenable (system : Placement) (desired : List Instance) : Prop where
  readable : ∀ i ∈ Plan.wanted desired, (addressOf i.connection).isSome
  apart : ∀ i ∈ Plan.wanted desired, ∀ j ∈ Plan.wanted desired, i.id ≠ j.id →
    Compatible system i.connection j.connection

/-- Nothing is held but what is wanted. -/
def Current (desired : List Instance) (held : IdMap HeldInstance) : Prop :=
  ∀ id entry, held.get? id = some entry → Plan.connectionFor desired id = some entry.fingerprint

theorem current_cleared (wanted : Option (List Instance)) (stock : Stock) :
    Current (wanted.getD []) (cleared wanted stock).1 := by
  intro id entry h
  rw [get?_cleared, Option.filter_eq_some_iff] at h
  exact of_decide_eq_true h.2

theorem Current.build {desired : List Instance} {i : Instance} (hs : Current desired stock.1)
    (hi : i ∈ Plan.wanted desired) (factory : Factory Connection) :
    Current desired (InstanceEngine.build factory stock i).1 := by
  intro id entry h
  rw [get?_build] at h
  split at h
  · rename_i hid
    cases h
    exact Plan.connectionFor_eq_some_iff.2 ⟨i, hi, hid.symm, rfl⟩
  · exact hs id entry h

theorem Current.foldl_build {desired instances : List Instance} (hs : Current desired stock.1)
    (hi : ∀ i ∈ instances, i ∈ Plan.wanted desired) (factory : Factory Connection) :
    Current desired (instances.foldl (InstanceEngine.build factory) stock).1 := by
  induction instances generalizing stock with
  | nil => exact hs
  | cons i rest ih =>
    exact ih (hs.build (hi i List.mem_cons_self) factory) fun j hj => hi j (List.mem_cons_of_mem i hj)

/-- While only wanted entries are held, a wanted one that is missing finds its place free. -/
theorem Tenable.attempt {desired : List Instance} (ht : Tenable system desired) (hs : Housed system stock)
    (hc : Current desired stock.1) {i : Instance} (hi : i ∈ Plan.wanted desired)
    (free : stock.1.get? i.id = none) : system.factory.attempt stock.2.calls i.connection = .ok () := by
  obtain ⟨address, ha⟩ := Option.isSome_iff_exists.1 (ht.readable i hi)
  have hfree : (instanceSockets stock.2.calls).any (system.taken address) = false := by
    rw [List.any_eq_false]
    intro b hb
    obtain ⟨d, hd, hdb⟩ := List.mem_filterMap.1 hb
    rw [← Ledger.map_snd_lent] at hd
    obtain ⟨⟨h, _⟩, hm, rfl⟩ := List.mem_map.1 hd
    obtain ⟨id, hid⟩ := hs.mem_lent_iff.1 hm
    obtain ⟨j, hj, rfl, hjd⟩ := Plan.connectionFor_eq_some_iff.1 (hc id _ hid)
    have hne : i.id ≠ j.id := fun he => by
      rw [he, hid] at free
      cases free
    have hdb : addressOf j.connection = some b := hjd ▸ hdb
    exact Bool.eq_false_iff.1 (ht.apart i hi j hj hne address b ha hdb)
  have hsocket : i.connection.socketAddress = .ok address := by
    rw [addressOf] at ha
    simp only [Connection.socketAddress, ha]
  simp only [Placement.factory, hsocket, hfree]
  rfl

/-- All that a pass creates for a snapshot that can be listened to is running after it. -/
theorem Tenable.running_pass {wanted : Option (List Instance)} (ht : Tenable system (wanted.getD []))
    (hs : Housed system stock) {i : Instance} (hi : i ∈ (planOf wanted stock.1).create) :
    ∃ h, (pass system.factory wanted stock).1.get? i.id = some ⟨i.connection, .ok h⟩ := by
  obtain ⟨before, after, hsplit⟩ := List.append_of_mem hi
  have hnodup := planOf_create_nodup wanted stock.1
  have hwanted : ∀ j ∈ (planOf wanted stock.1).create, j ∈ Plan.wanted (wanted.getD []) :=
    fun j hj => (Plan.mem_create_iff.1 hj).1
  -- What is held and known when the request for `i` is made.
  have housed : Housed system (before.foldl (InstanceEngine.build system.factory) (cleared wanted stock)) :=
    (hs.cleared wanted).foldl_build fun b j a hb => by
      have hj : (planOf wanted stock.1).create = b ++ j :: (a ++ i :: after) := by simp [hsplit, hb]
      exact get?_create_free system.factory stock hj
  have current : Current (wanted.getD [])
      (before.foldl (InstanceEngine.build system.factory) (cleared wanted stock)).1 :=
    (current_cleared wanted stock).foldl_build
      (fun j hj => hwanted j (hsplit ▸ List.mem_append_left _ hj)) system.factory
  obtain ⟨h, hh⟩ := Ledger.exists_create_of_attempt
    (ht.attempt housed current (hwanted i hi) (get?_create_free system.factory stock hsplit))
  refine ⟨h, ?_⟩
  have hlast : i.id ∉ after.map (·.id) := by
    rw [hsplit, List.map_append, List.map_cons, List.nodup_append, List.nodup_cons] at hnodup
    exact hnodup.2.1.1
  rw [pass_eq, hsplit, List.foldl_append, List.foldl_cons, get?_foldl_build_of_not_mem hlast, get?_build,
    if_pos rfl, hh]

/-! ## the sockets of the view -/

/-- The address of an entry that is running. -/
def socketOf (s : InstanceStatus) : Option SocketAddress :=
  if s.outcome.isRunning then addressOf s.fingerprint else none

/-- The addresses of the running entries. -/
def socketsOf (v : InstanceView) : List SocketAddress := v.instances.values.filterMap socketOf

/-- The handles that are held, each with its connection. -/
def keptFor (held : IdMap HeldInstance) : List (Nat × Connection) :=
  held.values.filterMap fun entry => entry.resource.toOption.map (·, entry.fingerprint)

theorem mem_keptFor_iff {held : IdMap HeldInstance} {h : Nat} {c : Connection} :
    (h, c) ∈ keptFor held ↔ ∃ id, held.get? id = some ⟨c, .ok h⟩ := by
  simp only [keptFor, IdMap.values, List.filterMap_map, List.mem_filterMap, Function.comp_apply,
    IdMap.get?_eq_some_iff]
  constructor
  · rintro ⟨⟨id, d, outcome⟩, hm, ho⟩
    cases outcome with
    | error message => cases ho
    | ok handle =>
      cases ho
      exact ⟨id, hm⟩
  · rintro ⟨id, hm⟩
    exact ⟨_, hm, rfl⟩

theorem Owns.keptFor_nodup (hs : Owns stock) : (keptFor stock.1).Nodup := by
  rw [keptFor, IdMap.values, List.filterMap_map, List.Nodup, List.pairwise_filterMap]
  refine stock.1.sorted.imp_of_mem fun {a b} ha hb hab p hp q hq hpq => String.ne_of_lt hab ?_
  obtain ⟨id, c, ra⟩ := a
  obtain ⟨id', d, rb⟩ := b
  subst hpq
  cases ra with
  | error message => cases hp
  | ok h =>
    cases rb with
    | error message => cases hq
    | ok h' =>
      cases hp
      cases hq
      exact hs.one_id ⟨c, IdMap.get?_eq_some_iff.2 ha⟩ ⟨_, IdMap.get?_eq_some_iff.2 hb⟩

theorem Housed.perm_lent (hs : Housed system stock) : stock.2.lent.Perm (keptFor stock.1) := by
  have hn : stock.2.lent.Nodup :=
    List.Nodup.of_map (·.1) (Ledger.map_fst_lent stock.2 ▸ hs.sound.alive_nodup)
  rw [List.perm_ext_iff_of_nodup hn hs.keptFor_nodup]
  rintro ⟨h, c⟩
  rw [hs.mem_lent_iff, mem_keptFor_iff]

theorem socketsOf_eq {v : InstanceView} {held : IdMap HeldInstance}
    (hv : v.instances = held.map HeldInstance.status) :
    socketsOf v = (keptFor held).filterMap fun p => addressOf p.2 := by
  simp only [socketsOf, hv, IdMap.values, IdMap.map, keptFor, List.filterMap_map, List.map_map,
    List.filterMap_filterMap]
  refine List.filterMap_congr fun entry _ => ?_
  obtain ⟨id, c, resource⟩ := entry
  cases resource <;> rfl

theorem runningCount_eq {v : InstanceView} {held : IdMap HeldInstance}
    (hv : v.instances = held.map HeldInstance.status) : v.runningCount = (keptFor held).length := by
  simp only [InstanceView.runningCount, hv, IdMap.values, IdMap.map, keptFor, List.countP_map,
    List.map_map, List.filterMap_map, List.length_filterMap_eq_countP]
  refine List.countP_congr fun entry _ => ?_
  obtain ⟨id, c, resource⟩ := entry
  cases resource <;> exact Iff.rfl

theorem Housed.perm_sockets (hs : Housed system stock) {v : InstanceView}
    (hv : v.instances = stock.1.map HeldInstance.status) : (instanceSockets stock.2.calls).Perm (socketsOf v) := by
  have hl : instanceSockets stock.2.calls = stock.2.lent.filterMap fun p => addressOf p.2 := by
    rw [instanceSockets, ← Ledger.map_snd_lent, List.filterMap_map]
    rfl
  rw [hl, socketsOf_eq hv]
  exact hs.perm_lent.filterMap _

theorem Housed.length_sockets (hs : Housed system stock) {v : InstanceView}
    (hv : v.instances = stock.1.map HeldInstance.status) : (socketsOf v).length = v.runningCount := by
  rw [socketsOf_eq hv, runningCount_eq hv, List.length_filterMap_eq_countP, List.countP_eq_length]
  intro p hp
  obtain ⟨address, ha⟩ := hs.bound p (hs.perm_lent.mem_iff.2 hp)
  rw [ha]
  rfl

theorem get?_status_running {held : IdMap HeldInstance} {id : String} {c : Connection} :
    (held.map HeldInstance.status).get? id = some ⟨c, .running⟩ ↔ ∃ h, held.get? id = some ⟨c, .ok h⟩ := by
  rw [IdMap.get?_map, Option.map_eq_some_iff]
  constructor
  · rintro ⟨⟨d, resource⟩, he, hs⟩
    cases resource with
    | error message => cases hs
    | ok h =>
      cases hs
      exact ⟨h, he⟩
  · rintro ⟨h, he⟩
    exact ⟨_, he, rfl⟩

/-- No two entries are held at one place. -/
theorem Housed.same_eq_false (hs : Housed system stock) {id id' : String} {c d : Connection} {h h' : Nat}
    (hc : stock.1.get? id = some ⟨c, .ok h⟩) (hd : stock.1.get? id' = some ⟨d, .ok h'⟩) (hne : id ≠ id')
    {a b : SocketAddress} (ha : addressOf c = some a) (hb : addressOf d = some b) (hp : a.port ≠ 0) :
    system.same a b = false := by
  have hlent : (h, c) ∈ stock.2.lent := hs.mem_lent_iff.2 ⟨id, hc⟩
  have hlent' : (h', d) ∈ stock.2.lent := hs.mem_lent_iff.2 ⟨id', hd⟩
  have hpair : (h, c) ≠ (h', d) := fun heq => by
    cases heq
    exact hne (hs.one_id ⟨c, hc⟩ ⟨c, hd⟩)
  have : Std.Symm fun p q : Nat × Connection => Compatible system p.2 q.2 := ⟨fun _ _ => Compatible.symm⟩
  have hcompatible : Compatible system c d := hs.compatible.forall hlent hlent' hpair
  have htaken := hcompatible a b ha hb
  simpa [Placement.taken, hp] using htaken

/-! ## every run -/

/-- The invariant of a run, with the view that observers see. -/
structure Shown (system : Placement) (r : Record Connection (IdMap HeldInstance) InstanceView) : Prop where
  housed : Housed system r.stock
  view : r.view.value.instances = r.held.map HeldInstance.status

theorem shown_run (system : Placement) (source : Watch (List Instance)) (moves : List (Move (List Instance))) :
    Shown system (World.run trade system.factory moves (.create trade source)).engine.record :=
  World.record_induction (I := Shown system) trade system.factory ⟨.empty, rfl⟩
    (fun _ wanted h => ⟨h.housed.pass wanted, rfl⟩) source moves

/-- **The sockets are those of what runs**, on every system and in every run: the sockets that are held
are those of the running entries, one each; no two running entries have one place, unless the system
chose their ports; and whatever ran before, if the addresses of a snapshot's records can be read and ask
for different places then all that a pass for it creates is running, also where records exchange their
addresses, or take one over from a record that went away. -/
theorem sockets_belong_to_running (system : Placement) (source : Watch (List Instance))
    (moves : List (Move (List Instance))) :
    let w := World.run trade system.factory moves (.create trade source)
    let view := w.engine.view.value
    (instanceSockets w.engine.ledger.calls).Perm (socketsOf view) ∧
      (socketsOf view).length = view.runningCount ∧
      (∀ id id' c d a b, view.instances.get? id = some ⟨c, .running⟩ →
        view.instances.get? id' = some ⟨d, .running⟩ → id ≠ id' →
        addressOf c = some a → addressOf d = some b → a.port ≠ 0 → a ≠ b ∧ system.same a b = false) ∧
      ∀ wanted, Tenable system (wanted.getD []) → ∀ i ∈ (planOf wanted w.engine.held).create,
        (w.engine.apply trade system.factory wanted).view.value.instances.get? i.id =
          some ⟨i.connection, .running⟩ := by
  intro w view
  have hw : Shown system w.engine.record := shown_run system source moves
  refine ⟨hw.housed.perm_sockets hw.view, hw.housed.length_sockets hw.view, ?_, fun wanted ht i hi => ?_⟩
  · intro id id' c d a b hc hd hne ha hb hp
    obtain ⟨h, hc⟩ := get?_status_running.1 (hw.view ▸ hc)
    obtain ⟨h', hd⟩ := get?_status_running.1 (hw.view ▸ hd)
    have hsame := hw.housed.same_eq_false hc hd hne ha hb hp
    refine ⟨?_, hsame⟩
    rintro rfl
    rw [system.refl] at hsame
    cases hsame
  · exact get?_status_running.2 (ht.running_pass hw.housed hi)

/-- Two records exchange their addresses, and a third takes over that of a record that is dropped. -/
theorem sockets_of_an_exchange :
    let connection (bindAddress : String) : Connection := ⟨"upstream", 443, ⟨"secret"⟩, bindAddress⟩
    let record (id bindAddress : String) : Instance := ⟨id, id, true, false, connection bindAddress⟩
    let first := [record "a" "127.0.0.1:8001", record "b" "127.0.0.1:8002", record "c" "127.0.0.1:8003"]
    let second := [record "a" "127.0.0.1:8002", record "b" "127.0.0.1:8001", record "d" "127.0.0.1:8003"]
    let w := World.run trade (instances []) [.start, .reconcile first] (.create trade { value := [] })
    let after := (w.engine.apply trade (instances []) (some second)).view.value
    (instanceSockets w.engine.ledger.calls).Perm (socketsOf w.engine.view.value) ∧
      (planOf (some second) w.engine.held).create = second ∧
      ∀ i ∈ second, after.instances.get? i.id = some ⟨i.connection, .running⟩ := by
  intro connection record first second w after
  have hcreate : (planOf (some second) w.engine.held).create = second := by decide +kernel
  have hsecond : Tenable .shared second := by
    constructor
    · decide +kernel
    · decide +kernel
  have hrun := sockets_belong_to_running .shared { value := [] } [.start, .reconcile first]
  rw [Placement.factory_shared] at hrun
  refine ⟨hrun.1, hcreate, fun i hi => hrun.2.2.2 (some second) hsecond i ?_⟩
  rw [hcreate]
  exact hi

end InstanceEngine

end ProxyKeeper

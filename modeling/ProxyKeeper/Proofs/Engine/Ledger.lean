/-
What holds of every ledger that an engine writes (`Ledger.Sound`): handles are
numbered in the order in which they are made, and a handle is given back only
while it is alive. A request keeps this whatever the factory answers
(`Sound.create`); giving a handle back keeps it when the handle is alive
(`Sound.destroy`).

The calls of a ledger say which handles are alive. `mem_alive_create` and
`mem_alive_destroy` say what one more call does to them, so that nothing
else has to look at the calls.
-/
import ProxyKeeper.Engine.Ledger
import ProxyKeeper.Proofs.Lists

namespace ProxyKeeper.Ledger

variable {P : Type}

/-! ## the calls -/

/-- A request is written down with its outcome, whether a handle came of it or not. -/
theorem create_eq (factory : Factory P) (params : P) (l : Ledger P) :
    l.create factory params =
      (⟨l.calls ++ [.create params (l.create factory params).2]⟩, (l.create factory params).2) := rfl

theorem create_cases (factory : Factory P) (params : P) (l : Ledger P) :
    (∃ message, (l.create factory params).2 = .error message) ∨
      (l.create factory params).2 = .ok l.nextHandle := by
  simp only [create]
  cases factory.attempt l.calls params with
  | error message => exact .inl ⟨message, rfl⟩
  | ok _ => exact .inr rfl

theorem created_create (factory : Factory P) (params : P) (l : Ledger P) :
    (l.create factory params).1.created =
      l.created ++ ((l.create factory params).2.toOption.toList) := by
  rw [create_eq]
  simp only [created, List.filterMap_append]
  rcases create_cases factory params l with ⟨message, h⟩ | h <;> rw [h] <;> rfl

@[simp] theorem destroyed_create (factory : Factory P) (params : P) (l : Ledger P) :
    (l.create factory params).1.destroyed = l.destroyed := by
  rw [create_eq]
  simp [destroyed, released?]

@[simp] theorem created_destroy (h : Nat) (l : Ledger P) : (l.destroy h).created = l.created := by
  simp [destroy, created, made?]

@[simp] theorem destroyed_destroy (h : Nat) (l : Ledger P) :
    (l.destroy h).destroyed = l.destroyed ++ [h] := by
  simp [destroy, destroyed, released?]

theorem mem_alive_iff {l : Ledger P} {h : Nat} : h ∈ l.alive ↔ h ∈ l.created ∧ h ∉ l.destroyed := by
  simp [alive]

/-! ## sound ledgers -/

structure Sound (l : Ledger P) : Prop where
  numbered : l.created = List.range' 1 l.created.length
  made : ∀ h ∈ l.destroyed, h ∈ l.created
  once : l.destroyed.Nodup
  /-- Whoever gives a handle back meets it alive. -/
  timely : ∀ before h after, l.calls = before ++ .destroy h :: after → h ∈ (⟨before⟩ : Ledger P).alive

theorem Sound.empty : (empty : Ledger P).Sound where
  numbered := rfl
  made := by simp [Ledger.empty, destroyed]
  once := by simp [Ledger.empty, destroyed]
  timely before h after hc := by simp [Ledger.empty] at hc

theorem Sound.created_nodup {l : Ledger P} (hl : l.Sound) : l.created.Nodup := by
  rw [hl.numbered]
  exact List.nodup_range'

theorem Sound.alive_nodup {l : Ledger P} (hl : l.Sound) : l.alive.Nodup := hl.created_nodup.filter _

theorem Sound.nextHandle_fresh {l : Ledger P} (hl : l.Sound) : l.nextHandle ∉ l.created := by
  rw [hl.numbered, List.mem_range'_1, nextHandle]
  omega

theorem Sound.create {l : Ledger P} (hl : l.Sound) (factory : Factory P) (params : P) :
    (l.create factory params).1.Sound where
  numbered := by
    rw [created_create]
    rcases create_cases factory params l with ⟨message, h⟩ | h
    · simpa [h, Except.toOption] using hl.numbered
    · simp only [h, Except.toOption, Option.toList_some, List.length_append, List.length_singleton]
      rw [List.range'_concat, ← hl.numbered, nextHandle]
      simp [Nat.add_comm]
  made h hd := by
    rw [created_create]
    rw [destroyed_create] at hd
    exact List.mem_append_left _ (hl.made h hd)
  once := by rw [destroyed_create]; exact hl.once
  timely before h after hc := by
    rcases eq_or_of_append_singleton hc with ⟨-, hcall⟩ | ⟨rest, hr⟩
    · cases hcall
    · exact hl.timely before h rest hr

theorem Sound.destroy {l : Ledger P} (hl : l.Sound) {h : Nat} (ha : h ∈ l.alive) : (l.destroy h).Sound where
  numbered := by rw [created_destroy]; exact hl.numbered
  made x hx := by
    rw [destroyed_destroy] at hx
    rw [created_destroy]
    rcases List.mem_append.1 hx with hx | hx
    · exact hl.made x hx
    · rw [List.mem_singleton.1 hx]
      exact (mem_alive_iff.1 ha).1
  once := by
    rw [destroyed_destroy]
    exact List.nodup_append.2 ⟨hl.once, by simp, fun x hx y hy hxy => (mem_alive_iff.1 ha).2
      (List.mem_singleton.1 hy ▸ hxy ▸ hx)⟩
  timely before x after hc := by
    rcases eq_or_of_append_singleton hc with ⟨hb, hcall⟩ | ⟨rest, hr⟩
    · cases hcall
      exact hb ▸ ha
    · exact hl.timely before x rest hr

/-! ## who is alive -/

theorem mem_alive_destroy {l : Ledger P} {h x : Nat} : x ∈ (l.destroy h).alive ↔ x ∈ l.alive ∧ x ≠ h := by
  simp only [mem_alive_iff, created_destroy, destroyed_destroy, List.mem_append, List.mem_singleton,
    not_or, and_assoc, ne_eq]

/-- A handle that is made is alive: nobody could have given it back before. -/
theorem Sound.mem_alive_create {l : Ledger P} (hl : l.Sound) {factory : Factory P} {params : P} {x : Nat} :
    x ∈ (l.create factory params).1.alive ↔ x ∈ l.alive ∨ (l.create factory params).2 = .ok x := by
  simp only [mem_alive_iff, created_create, destroyed_create, List.mem_append]
  rcases create_cases factory params l with ⟨message, h⟩ | h
  · simp [h, Except.toOption]
  · have hn : l.nextHandle ∉ l.destroyed := fun hd => hl.nextHandle_fresh (hl.made _ hd)
    simp only [h, Except.toOption, Option.toList_some, List.mem_singleton, Except.ok.injEq]
    constructor
    · rintro ⟨hx | hx, hd⟩
      · exact .inl ⟨hx, hd⟩
      · exact .inr hx.symm
    · rintro (⟨hx, hd⟩ | rfl)
      · exact ⟨.inl hx, hd⟩
      · exact ⟨.inr rfl, hn⟩

/-- A released handle goes out of those that are alive, which keep their order. -/
theorem alive_destroy (l : Ledger P) (h : Nat) : (l.destroy h).alive = l.alive.filter (· ≠ h) := by
  simp only [alive, created_destroy, destroyed_destroy, List.filter_filter]
  refine List.filter_congr fun x _ => ?_
  by_cases hx : x = h <;> simp [hx]

/-- A handle that is made comes last among those that are alive. -/
theorem Sound.alive_create {l : Ledger P} (hl : l.Sound) (factory : Factory P) (params : P) :
    (l.create factory params).1.alive = l.alive ++ (l.create factory params).2.toOption.toList := by
  simp only [alive, created_create, destroyed_create, List.filter_append]
  congr 1
  rcases create_cases factory params l with ⟨message, h⟩ | h <;> rw [h]
  · rfl
  · have hn : l.nextHandle ∉ l.destroyed := fun hd => hl.nextHandle_fresh (hl.made _ hd)
    simp [Except.toOption, hn]

end ProxyKeeper.Ledger

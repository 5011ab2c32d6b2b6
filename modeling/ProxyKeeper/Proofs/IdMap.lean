/-
Lookup in a map of ids, operation by operation: `get?_insert_self`,
`get?_insert_of_ne`, `get?_erase`, `get?_map`, and entries against lookup
(`get?_eq_some_iff`: an id stands in a map at most once, so an entry is what
its id finds). Two maps that find the same are the same (`ext_get?`).
-/
import ProxyKeeper.IdMap

namespace ProxyKeeper.IdMap

variable {β γ : Type}

@[simp] theorem get?_empty (id : String) : (∅ : IdMap β).get? id = none := rfl

theorem get?_insert_self (m : IdMap β) (id : String) (b : β) : (m.insert id b).get? id = some b := by
  simp only [get?, insert]
  generalize m.entries = l
  induction l with
  | nil => simp [insertEntry]
  | cons head rest ih =>
    obtain ⟨k, v⟩ := head
    rw [insertEntry]
    split
    · simp
    · split
      · rename_i hlt
        have hk : (k == id) = false := beq_false_of_ne (String.ne_of_lt hlt)
        simp only [List.find?_cons, hk]
        exact ih
      · simp

theorem get?_insert_of_ne (m : IdMap β) {id x : String} (b : β) (hne : x ≠ id) :
    (m.insert id b).get? x = m.get? x := by
  simp only [get?, insert]
  generalize m.entries = l
  have hid : (id == x) = false := beq_false_of_ne hne.symm
  induction l with
  | nil => simp [insertEntry, hid]
  | cons head rest ih =>
    obtain ⟨k, v⟩ := head
    rw [insertEntry]
    split
    · simp [hid]
    · split
      · rw [List.find?_cons, List.find?_cons]
        split
        · rfl
        · exact ih
      · rename_i h1 h2
        have hk : k = id := String.le_antisymm (String.not_lt.1 h1) (String.not_lt.1 h2)
        rw [List.find?_cons, List.find?_cons, hk, hid]

theorem get?_insert (m : IdMap β) (id x : String) (b : β) :
    (m.insert id b).get? x = if x = id then some b else m.get? x := by
  split
  · rename_i h; rw [h, get?_insert_self]
  · rename_i h; exact get?_insert_of_ne m b h

theorem get?_erase (m : IdMap β) (id x : String) :
    (m.erase id).get? x = if x = id then none else m.get? x := by
  simp only [get?, erase, filterIds, List.find?_filter, Bool.decide_and, Bool.decide_eq_true]
  split
  · rename_i h
    have hp : (fun a : String × β => a.1 != id && a.1 == x) = fun _ => false := by
      funext a
      simp [h, bne]
    simp [hp]
  · rename_i h
    have hp : (fun a : String × β => a.1 != id && a.1 == x) = fun a => a.1 == x := by
      funext a
      by_cases ha : a.1 = x <;> simp [ha, h]
    rw [hp]

theorem get?_map (m : IdMap β) (f : β → γ) (id : String) : (m.map f).get? id = (m.get? id).map f := by
  simp only [get?, map, List.find?_map, Option.map_map, Function.comp_def]

/-! ## entries -/

theorem keys_nodup (m : IdMap β) : m.keys.Nodup := by
  rw [keys, List.Nodup, List.pairwise_map]
  exact m.sorted.imp fun h => String.ne_of_lt h

theorem get?_eq_some_iff {m : IdMap β} {id : String} {b : β} :
    m.get? id = some b ↔ (id, b) ∈ m.entries := by
  constructor
  · intro h
    obtain ⟨⟨k, v⟩, hf, rfl⟩ := Option.map_eq_some_iff.1 h
    have hk : k = id := by simpa using List.find?_some hf
    exact hk ▸ List.mem_of_find?_eq_some hf
  · have hn := m.keys_nodup
    simp only [get?, keys] at hn ⊢
    generalize m.entries = l at hn
    intro h
    induction l with
    | nil => simp at h
    | cons head rest ih =>
      rcases List.mem_cons.1 h with rfl | h
      · simp
      · simp only [List.map_cons, List.nodup_cons] at hn
        have hk : (head.1 == id) = false :=
          beq_false_of_ne fun he => hn.1 (List.mem_map.2 ⟨_, h, he.symm⟩)
        simp only [List.find?_cons, hk]
        exact ih hn.2 h

theorem mem_keys_iff {m : IdMap β} {id : String} : id ∈ m.keys ↔ ∃ b, m.get? id = some b := by
  simp [keys, get?_eq_some_iff]

theorem entries_nodup (m : IdMap β) : m.entries.Nodup := by
  rw [List.Nodup]
  exact m.sorted.imp fun {a b} hab (he : a = b) => String.ne_of_lt hab (congrArg Prod.fst he)

/-- A map is what it finds, since the order of its entries is that of their ids. -/
theorem ext_get? {m n : IdMap β} (h : ∀ id, m.get? id = n.get? id) : m = n := by
  have perm : m.entries.Perm n.entries := by
    rw [List.perm_ext_iff_of_nodup m.entries_nodup n.entries_nodup]
    rintro ⟨id, b⟩
    rw [← get?_eq_some_iff, ← get?_eq_some_iff, h]
  have same : m.entries = n.entries :=
    perm.eq_of_pairwise (fun _ _ _ _ hab hba => absurd (String.lt_trans hab hba) (String.lt_irrefl _)) m.sorted n.sorted
  cases m
  cases n
  cases same
  rfl

theorem eq_empty_of_get? {m : IdMap β} (h : ∀ id, m.get? id = none) : m = ∅ := ext_get? h

/-! ## many at a time -/

theorem get?_foldl_erase (ids : List String) (m : IdMap β) (x : String) :
    (ids.foldl erase m).get? x = if x ∈ ids then none else m.get? x := by
  induction ids generalizing m with
  | nil => simp
  | cons id rest ih =>
    rw [List.foldl_cons, ih, get?_erase]
    by_cases hx : x = id <;> by_cases hr : x ∈ rest <;> simp [hx, hr]

/-- Pairs that are put into a map are found there, beside what it has for other ids. -/
theorem get?_foldl_insert {pairs : List (String × β)} (hn : (pairs.map (·.1)).Nodup) (m : IdMap β) (x : String) :
    (pairs.foldl (fun m (id, b) => m.insert id b) m).get? x =
      ((pairs.find? (·.1 == x)).map (·.2)).or (m.get? x) := by
  induction pairs generalizing m with
  | nil => rfl
  | cons pair rest ih =>
    rw [List.map_cons, List.nodup_cons] at hn
    rw [List.foldl_cons, ih hn.2, get?_insert, List.find?_cons]
    by_cases hx : x = pair.1
    · -- No later pair has this id.
      have hrest : rest.find? (·.1 == x) = none := by
        rw [List.find?_eq_none]
        exact fun other ho he => hn.1 (List.mem_map.2 ⟨other, ho, (beq_iff_eq.1 he).trans hx⟩)
      rw [hrest, if_pos hx, beq_iff_eq.2 hx.symm]
      rfl
    · rw [if_neg hx, beq_false_of_ne (Ne.symm hx)]

theorem get?_ofList {pairs : List (String × β)} (hn : (pairs.map (·.1)).Nodup) (x : String) :
    (ofList pairs).get? x = (pairs.find? (·.1 == x)).map (·.2) :=
  (get?_foldl_insert hn ∅ x).trans Option.or_none

end ProxyKeeper.IdMap

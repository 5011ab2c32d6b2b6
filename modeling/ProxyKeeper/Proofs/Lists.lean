/-
Lists by their last element and by keys.

Where no key stands twice, what looks for the first element with a key is the
same as what goes through all of them: a lookup, an erasure and a replacement
(`put`) are then a membership, a filter and a map.
-/

namespace ProxyKeeper

variable {α : Type}

/-- A list with one more at its end, cut before an element: that is the last one, or it was there before. -/
theorem eq_or_of_append_singleton {l before after : List α} {c d : α}
    (h : l ++ [c] = before ++ d :: after) : (l = before ∧ c = d) ∨ ∃ rest, l = before ++ d :: rest := by
  rcases List.eq_nil_or_concat after with rfl | ⟨rest, e, rfl⟩
  · obtain ⟨hl, hc⟩ := List.append_inj' h rfl
    exact .inl ⟨hl, List.singleton_inj.1 hc⟩
  · rw [List.concat_eq_append, ← List.cons_append, ← List.append_assoc] at h
    exact .inr ⟨rest, (List.append_inj' h rfl).1⟩

/-- Without duplicate keys a key stands in a list once at most. -/
theorem filter_key_eq_find? (key : α → String) {l : List α} (hn : (l.map key).Nodup) (id : String) :
    l.filter (key · == id) = (l.find? (key · == id)).toList := by
  induction l with
  | nil => rfl
  | cons a rest ih =>
    simp only [List.map_cons, List.nodup_cons] at hn
    rw [List.filter_cons, List.find?_cons]
    cases ha : key a == id with
    | false => exact ih hn.2
    | true =>
      have none_left : rest.filter (key · == id) = [] := by
        refine List.filter_eq_nil_iff.2 fun b hb hid => hn.1 ?_
        rw [eq_of_beq ha, ← eq_of_beq hid]
        exact List.mem_map_of_mem hb
      simp [none_left]

/-- A flag that one of the elements raises, and that stays up. -/
theorem foldl_flag_iff {β : Type} (flag : β → Prop) {step : β → α → β} {raising : α}
    (h : ∀ b a, flag (step b a) ↔ flag b ∨ a = raising) (l : List α) (b : β) :
    flag (l.foldl step b) ↔ flag b ∨ raising ∈ l := by
  induction l generalizing b with
  | nil => simp
  | cons a rest ih => rw [List.foldl_cons, ih, h, List.mem_cons, or_assoc, eq_comm (a := a)]

/-- Where no name stands twice, it belongs to one element only. -/
theorem eq_of_nodup_flatMap.{u} {β : Type u} {γ : Type} {names : β → List γ} {l : List β} (h : (l.flatMap names).Nodup)
    {a b : β} {n : γ} (ha : a ∈ l) (hb : b ∈ l) (hna : n ∈ names a) (hnb : n ∈ names b) : a = b := by
  induction l with
  | nil => cases ha
  | cons c rest ih =>
    rw [List.flatMap_cons, List.nodup_append] at h
    obtain ⟨-, hrest, happart⟩ := h
    have later : ∀ d ∈ rest, n ∈ names d → n ∉ names c := fun d hd hnd hnc =>
      happart n hnc n (List.mem_flatMap.2 ⟨d, hd, hnd⟩) rfl
    rcases List.mem_cons.1 ha with rfl | har <;> rcases List.mem_cons.1 hb with rfl | hbr
    · rfl
    · exact absurd hna (later b hbr hnb)
    · exact absurd hnb (later a har hna)
    · exact ih hrest har hbr

/-! ## lists without duplicate keys -/

theorem find?_key_eq_none_iff {κ : Type} [BEq κ] [LawfulBEq κ] (key : α → κ) {l : List α} {id : κ} :
    l.find? (key · == id) = none ↔ id ∉ l.map key := by
  rw [List.find?_eq_none, List.mem_map]
  exact ⟨fun h ⟨a, ha, hid⟩ => h a ha (beq_iff_eq.2 hid), fun h a ha hid => h ⟨a, ha, beq_iff_eq.1 hid⟩⟩

/-- A lookup finds the one element with the key. -/
theorem find?_key_eq_some_iff (key : α → String) {l : List α} (hn : (l.map key).Nodup) {id : String} {a : α} :
    l.find? (key · == id) = some a ↔ a ∈ l ∧ key a = id := by
  have hfound : a ∈ l.filter (key · == id) ↔ a ∈ (l.find? (key · == id)).toList := by rw [filter_key_eq_find? key hn]
  rw [← Option.mem_toList, ← hfound, List.mem_filter, beq_iff_eq]

theorem eraseP_key_eq_filter (key : α → String) {l : List α} (hn : (l.map key).Nodup) (id : String) :
    l.eraseP (key · == id) = l.filter (key · != id) := by
  induction l with
  | nil => rfl
  | cons a rest ih =>
    simp only [List.map_cons, List.nodup_cons] at hn
    rw [List.eraseP_cons, List.filter_cons, bne]
    cases ha : key a == id with
    | false => exact congrArg (a :: ·) (ih hn.2)
    | true =>
      refine (List.filter_eq_self.2 fun b hb => ?_).symm
      rw [bne_iff_ne]
      intro hid
      exact hn.1 (by rw [eq_of_beq ha, ← hid]; exact List.mem_map_of_mem hb)

/-- A change to what has a key, where nothing has it. -/
theorem map_key_of_not_mem (key : α → String) {l : List α} {id : String} (h : id ∉ l.map key) (f : α → α) :
    (l.map fun a => if key a = id then f a else a) = l := by
  refine (List.map_congr_left fun a ha => if_neg fun hid => h ?_).trans (List.map_id l)
  exact hid ▸ List.mem_map_of_mem ha

/-- A change that leaves the key in place leaves the keys in place. -/
theorem keys_map_key (key : α → String) {id : String} {f : α → α} (hf : ∀ a, key a = id → key (f a) = id) (l : List α) :
    (l.map fun a => if key a = id then f a else a).map key = l.map key := by
  rw [List.map_map]
  refine List.map_congr_left fun a _ => ?_
  rw [Function.comp_apply]
  split
  · exact (hf a ‹_›).trans (‹key a = id›).symm
  · rfl

/-- Puts an element in the place of the first one with its key, or at the end. -/
def put (key : α → String) (a : α) : List α → List α
  | [] => [a]
  | b :: rest => if key b = key a then a :: rest else b :: put key a rest

theorem put_of_not_mem (key : α → String) {a : α} {l : List α} (h : key a ∉ l.map key) : put key a l = l ++ [a] := by
  induction l with
  | nil => rfl
  | cons b rest ih =>
    rw [List.map_cons, List.mem_cons, not_or] at h
    rw [put, if_neg fun hb => h.1 hb.symm, ih h.2, List.cons_append]

theorem put_of_mem (key : α → String) {a : α} {l : List α} (hn : (l.map key).Nodup) (h : key a ∈ l.map key) :
    put key a l = l.map fun b => if key b = key a then a else b := by
  induction l with
  | nil => cases h
  | cons b rest ih =>
    rw [List.map_cons, List.nodup_cons] at hn
    rw [put, List.map_cons]
    by_cases hb : key b = key a
    · rw [if_pos hb, if_pos hb, map_key_of_not_mem key (hb ▸ hn.1)]
    · rw [if_neg hb, if_neg hb, ih hn.2 (by simpa [Ne.symm hb] using h)]

theorem mem_put_self (key : α → String) (a : α) (l : List α) : a ∈ put key a l := by
  induction l with
  | nil => exact List.mem_singleton_self a
  | cons b rest ih =>
    rw [put]
    split
    · exact List.mem_cons_self
    · exact List.mem_cons_of_mem b ih

theorem mem_of_mem_put {key : α → String} {a b : α} {l : List α} (h : b ∈ put key a l) : b = a ∨ b ∈ l := by
  induction l with
  | nil => exact .inl (List.mem_singleton.1 h)
  | cons c rest ih =>
    rw [put] at h
    split at h
    · exact (List.mem_cons.1 h).imp_right (List.mem_cons_of_mem c)
    · obtain rfl | h := List.mem_cons.1 h
      · exact .inr List.mem_cons_self
      · exact (ih h).imp_right (List.mem_cons_of_mem c)

theorem keys_put (key : α → String) (a : α) (l : List α) :
    (put key a l).map key = if key a ∈ l.map key then l.map key else l.map key ++ [key a] := by
  induction l with
  | nil => rfl
  | cons b rest ih =>
    rw [put]
    by_cases hb : key b = key a
    · simp [hb]
    · simp only [if_neg hb, List.map_cons, ih, List.mem_cons, Ne.symm hb, false_or]
      split <;> rfl

theorem nodup_keys_put {key : α → String} {l : List α} (hn : (l.map key).Nodup) (a : α) :
    ((put key a l).map key).Nodup := by
  rw [keys_put]
  split
  · exact hn
  · rename_i hnew
    refine List.nodup_append.2 ⟨hn, by simp, fun b hb c hc => ?_⟩
    rw [List.mem_singleton.1 hc]
    exact fun hab => hnew (hab ▸ hb)

end ProxyKeeper

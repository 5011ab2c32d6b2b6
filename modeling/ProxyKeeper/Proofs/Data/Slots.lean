/-
Records from members in any order.

A `Slot` is a field of which it is known what it keeps in the record, and the
slots of a shape do not touch one another (`Slotted`). So of a record that was
taken from members, every slot holds what the one member gave that answers to
it, or what it held before (`Slotted.holds`); and members give a record as soon
as no two of them answer to one field, none of the fields that have to be given
is missing, and each can be taken for what its slot keeps
(`Slotted.exists_take`). Members that no field answers to are passed over.
-/
import ProxyKeeper.Data.Record
import ProxyKeeper.Proofs.Lists
import ProxyKeeper.Proofs.Results

namespace ProxyKeeper.Data

variable {κ ι α : Type}

/-- A member: the place of its name, the flaw of the name, name and datum. -/
abbrev Given (κ ι : Type) := κ × Option ι × String × Datum κ ι

/-! ## slots -/

/-- A field with the part of the record that it keeps. -/
structure Slot (κ ι α : Type) where
  name : String
  aliases : List String
  absence : Absence
  Value : Type
  take : Take κ ι Value
  get : α → Value
  put : Value → α → α

namespace Slot

def field (x : Slot κ ι α) : Field κ ι α := ⟨x.name, x.aliases, x.absence, fun d r => (x.take d).map (x.put · r)⟩

def names (x : Slot κ ι α) : List String := x.name :: x.aliases

theorem answersTo_field {x : Slot κ ι α} {name : String} : x.field.answersTo name = true ↔ name ∈ x.names := by
  rw [Field.answersTo, field, names, Bool.or_eq_true, beq_iff_eq, List.contains_iff_mem, List.mem_cons, eq_comm]

theorem map_name_sublist (slots : List (Slot κ ι α)) : (slots.map name).Sublist (slots.flatMap names) := by
  induction slots with
  | nil => exact .slnil
  | cons x slots ih => exact (ih.trans (List.sublist_append_right _ _)).cons_cons _

end Slot

/-- The fields of a shape are slots of which none touches another. -/
structure Slotted (s : Shape κ ι α) (slots : List (Slot κ ι α)) : Prop where
  fields : s.fields = slots.map Slot.field
  distinct : (slots.flatMap Slot.names).Nodup
  get_put : ∀ x ∈ slots, ∀ v r, x.get (x.put v r) = v
  get_put_of_ne : ∀ x ∈ slots, ∀ y ∈ slots, x.name ≠ y.name → ∀ v r, y.get (x.put v r) = y.get r

namespace Shape

/-- The fields that members give, by their names. -/
def named (s : Shape κ ι α) (given : List (Given κ ι)) : List String :=
  given.filterMap fun m => (s.fields.find? (·.answersTo m.2.2.1)).map (·.name)

variable {s : Shape κ ι α} {given : List (Given κ ι)} {seen seen' : List String} {r r' : α} {mark : κ} {flaw : Option ι}
  {name : String} {d : Datum κ ι}

theorem named_cons_none (h : s.fields.find? (·.answersTo name) = none) :
    s.named ((mark, flaw, name, d) :: given) = s.named given := by
  rw [named, List.filterMap_cons_none (by rw [h]; rfl)]
  rfl

theorem named_cons_some {f : Field κ ι α} (h : s.fields.find? (·.answersTo name) = some f) :
    s.named ((mark, flaw, name, d) :: given) = f.name :: s.named given := by
  rw [named, List.filterMap_cons_some (by rw [h]; rfl)]
  rfl

/-- What members come to that were stored: the first of them, and the rest. -/
theorem members_cons_eq_ok (h : s.members ((mark, flaw, name, d) :: given) seen r = .ok (seen', r')) :
    flaw = none ∧
      ((s.fields.find? (·.answersTo name) = none ∧ s.members given seen r = .ok (seen', r')) ∨
        ∃ f next, s.fields.find? (·.answersTo name) = some f ∧ f.name ∉ seen ∧ f.store d r = .ok next ∧
          s.members given (f.name :: seen) next = .ok (seen', r')) := by
  cases flaw with
  | some issue => cases h
  | none =>
    refine ⟨rfl, ?_⟩
    simp only [members] at h
    cases hf : s.fields.find? (·.answersTo name) with
    | none =>
      rw [hf] at h
      cases hskip : d.skip with
      | some issue => simp only [hskip] at h; cases h
      | none =>
        simp only [hskip] at h
        exact .inl ⟨rfl, h⟩
    | some f =>
      rw [hf] at h
      by_cases hseen : seen.contains f.name = true
      · simp only [hseen] at h
        cases h
      · simp only [if_neg hseen] at h
        obtain ⟨next, hstore, h⟩ := bind_eq_ok.1 h
        exact .inr ⟨f, next, rfl, by simpa using hseen, hstore, h⟩

/-- Members of which two give one field are not stored. -/
theorem nodup_of_members (h : s.members given seen r = .ok (seen', r')) :
    (s.named given).Nodup ∧ ∀ name ∈ s.named given, name ∉ seen := by
  induction given generalizing seen r with
  | nil => exact ⟨.nil, fun _ hn => absurd hn List.not_mem_nil⟩
  | cons m given ih =>
    obtain ⟨mark, flaw, name, d⟩ := m
    obtain ⟨-, ⟨hf, h⟩ | ⟨f, next, hf, hseen, -, h⟩⟩ := members_cons_eq_ok h
    · rw [named_cons_none hf]
      exact ih h
    · obtain ⟨hnodup, hnew⟩ := ih h
      rw [named_cons_some hf]
      refine ⟨List.nodup_cons.2 ⟨fun hn => hnew _ hn List.mem_cons_self, hnodup⟩, fun n hn => ?_⟩
      rcases List.mem_cons.1 hn with rfl | hn
      · exact hseen
      · exact fun hs => hnew n hn (List.mem_cons_of_mem _ hs)

theorem take_fields_eq_ok {ending : Ending κ ι} (h : s.take (.fields mark given ending) = .ok r) :
    ∃ seen, s.members given [] s.blank = .ok (seen, r) := by
  rw [take] at h
  obtain ⟨⟨seen, r'⟩, hm, h⟩ := bind_eq_ok.1 h
  refine ⟨seen, ?_⟩
  cases ending with
  | broken => cases h
  | unreached => cases h; exact hm
  | closed behind =>
    dsimp only at h
    cases hmissing : s.missing? seen with
    | some name => rw [hmissing] at h; cases h
    | none => rw [hmissing] at h; cases h; exact hm

end Shape

namespace Slotted

variable {s : Shape κ ι α} {slots : List (Slot κ ι α)} {given : List (Given κ ι)} {seen seen' : List String} {r r' : α}
  {x y : Slot κ ι α} {name : String} {mark behind : κ}

/-- Only one slot answers to a name. -/
theorem eq_of_mem_names (h : Slotted s slots) (hx : x ∈ slots) (hy : y ∈ slots) (hxn : name ∈ x.names)
    (hyn : name ∈ y.names) : x = y :=
  eq_of_nodup_flatMap h.distinct hx hy hxn hyn

theorem eq_of_name (h : Slotted s slots) (hx : x ∈ slots) (hy : y ∈ slots) (hn : x.name = y.name) : x = y :=
  h.eq_of_mem_names hx hy List.mem_cons_self (hn ▸ List.mem_cons_self)

theorem exists_of_find? (h : Slotted s slots) {f : Field κ ι α} (hf : s.fields.find? (·.answersTo name) = some f) :
    ∃ x ∈ slots, x.field = f ∧ name ∈ x.names := by
  have hmem := List.mem_of_find?_eq_some hf
  rw [h.fields] at hmem
  obtain ⟨x, hx, rfl⟩ := List.mem_map.1 hmem
  have ha := List.find?_some (p := fun f : Field κ ι α => f.answersTo name) hf
  exact ⟨x, hx, rfl, Slot.answersTo_field.1 ha⟩

theorem not_mem_names_of_find? (h : Slotted s slots) (hf : s.fields.find? (·.answersTo name) = none) (hx : x ∈ slots) :
    name ∉ x.names := by
  rw [h.fields, List.find?_eq_none] at hf
  exact fun hn => hf x.field (List.mem_map_of_mem hx) (Slot.answersTo_field.2 hn)

/-- The field that answers to a name is the one that is found. -/
theorem find?_eq (h : Slotted s slots) (hx : x ∈ slots) (hn : name ∈ x.names) :
    s.fields.find? (·.answersTo name) = some x.field := by
  cases hf : s.fields.find? (·.answersTo name) with
  | none => exact absurd hn (h.not_mem_names_of_find? hf hx)
  | some f =>
    obtain ⟨y, hy, rfl, hyn⟩ := h.exists_of_find? hf
    rw [h.eq_of_mem_names hx hy hn hyn]

/-! ## what is taken -/

/-- What the members that are left do to a slot: the one that answers to it gives what it holds, and if there is none
it holds what it held. -/
theorem get_of_members (h : Slotted s slots) (hm : s.members given seen r = .ok (seen', r')) (hx : x ∈ slots) :
    (∀ m ∈ given, m.2.2.1 ∈ x.names → x.name ∉ seen ∧ x.take m.2.2.2 = .ok (x.get r')) ∧
      ((∀ m ∈ given, m.2.2.1 ∉ x.names) → x.get r' = x.get r) := by
  induction given generalizing seen r with
  | nil =>
    cases hm
    exact ⟨fun _ h => absurd h List.not_mem_nil, fun _ => rfl⟩
  | cons m given ih =>
    obtain ⟨mark, flaw, name, d⟩ := m
    simp only [List.forall_mem_cons]
    obtain ⟨-, ⟨hf, hm⟩ | ⟨f, next, hf, hseen, hstore, hm⟩⟩ := Shape.members_cons_eq_ok hm
    · obtain ⟨hgiven, hkept⟩ := ih hm
      have hother : name ∉ x.names := h.not_mem_names_of_find? hf hx
      exact ⟨⟨fun hn => absurd hn hother, hgiven⟩, fun hnone => hkept hnone.2⟩
    · obtain ⟨y, hy, rfl, hyn⟩ := h.exists_of_find? hf
      obtain ⟨v, hv, rfl⟩ := map_eq_ok.1 hstore
      obtain ⟨hgiven, hkept⟩ := ih hm
      by_cases hname : y.name = x.name
      · obtain rfl := h.eq_of_name hy hx hname
        -- No later member may answer to the slot, which keeps what this one gave.
        have hlast : ∀ m ∈ given, m.2.2.1 ∉ y.names := fun m hmem hn =>
          (hgiven m hmem hn).1 List.mem_cons_self
        have hget : y.get r' = v := (hkept hlast).trans (h.get_put y hy v r)
        exact ⟨⟨fun _ => ⟨hseen, by rw [hv, hget]⟩, fun m hmem hn => absurd hn (hlast m hmem)⟩,
          fun hnone => absurd hyn hnone.1⟩
      · have hother : name ∉ x.names := fun hn => hname (congrArg Slot.name (h.eq_of_mem_names hy hx hyn hn))
        refine ⟨⟨fun hn => absurd hn hother, fun m hmem hn => ?_⟩, fun hnone => ?_⟩
        · obtain ⟨hnew, htake⟩ := hgiven m hmem hn
          exact ⟨fun hs => hnew (List.mem_cons_of_mem _ hs), htake⟩
        · rw [hkept hnone.2, h.get_put_of_ne y hy x hx hname]

/-- The slots of a record that was taken from members. -/
theorem holds (h : Slotted s slots) {ending : Ending κ ι} (ht : s.take (.fields mark given ending) = .ok r)
    (hx : x ∈ slots) :
    (∀ m ∈ given, m.2.2.1 ∈ x.names → x.take m.2.2.2 = .ok (x.get r)) ∧
      ((∀ m ∈ given, m.2.2.1 ∉ x.names) → x.get r = x.get s.blank) := by
  obtain ⟨seen, hm⟩ := Shape.take_fields_eq_ok ht
  obtain ⟨hgiven, hkept⟩ := h.get_of_members hm hx
  exact ⟨fun m hmem ha => (hgiven m hmem ha).2, hkept⟩

/-- What no slot changes stays as it is in the record before any field is stored. -/
theorem keeps (h : Slotted s slots) (P : α → Prop) (hblank : P s.blank)
    (hput : ∀ x ∈ slots, ∀ v r, P r → P (x.put v r)) {ending : Ending κ ι}
    (ht : s.take (.fields mark given ending) = .ok r) : P r := by
  have hmembers : ∀ {given : List (Given κ ι)} {seen seen' : List String} {start : α}, P start →
      s.members given seen start = .ok (seen', r) → P r := by
    intro given
    induction given with
    | nil =>
      intro seen seen' start hstart hm
      cases hm
      exact hstart
    | cons m given ih =>
      intro seen seen' start hstart hm
      obtain ⟨-, ⟨-, hm⟩ | ⟨f, next, hf, -, hstore, hm⟩⟩ := Shape.members_cons_eq_ok hm
      · exact ih hstart hm
      · obtain ⟨y, hy, rfl, -⟩ := h.exists_of_find? hf
        obtain ⟨v, -, rfl⟩ := map_eq_ok.1 hstore
        exact ih (hput y hy v start hstart) hm
  obtain ⟨seen, hm⟩ := Shape.take_fields_eq_ok ht
  exact hmembers hblank hm

/-- Members that can be stored, each of them, whatever the record. -/
structure Storable (s : Shape κ ι α) (slots : List (Slot κ ι α)) (given : List (Given κ ι)) : Prop where
  flawless : ∀ m ∈ given, m.2.1 = none
  passed : ∀ m ∈ given, s.fields.find? (·.answersTo m.2.2.1) = none → m.2.2.2.skip = none
  taken : ∀ m ∈ given, ∀ x ∈ slots, m.2.2.1 ∈ x.names → ∃ v, x.take m.2.2.2 = .ok v
  nodup : (s.named given).Nodup

/-- Where nothing can be wrong with the form, only the meaning of members is in question. -/
theorem Storable.of_plain {s : Shape κ Empty α} {slots : List (Slot κ Empty α)} {given : List (Given κ Empty)}
    (taken : ∀ m ∈ given, ∀ x ∈ slots, m.2.2.1 ∈ x.names → ∃ v, x.take m.2.2.2 = .ok v)
    (nodup : (s.named given).Nodup) :
    Storable s slots given := by
  have hnone (issue : Option Empty) : issue = none := by
    cases issue with
    | none => rfl
    | some issue => exact issue.elim
  exact ⟨fun m _ => hnone m.2.1, fun m _ _ => hnone m.2.2.2.skip, taken, nodup⟩

theorem exists_members (h : Slotted s slots) (hg : Storable s slots given) (hnew : ∀ name ∈ s.named given, name ∉ seen)
    (r : α) : ∃ r', s.members given seen r = .ok ((s.named given).reverse ++ seen, r') := by
  induction given generalizing seen r with
  | nil => exact ⟨r, rfl⟩
  | cons m given ih =>
    obtain ⟨mark, flaw, name, d⟩ := m
    obtain ⟨hflaw, hflaws⟩ := List.forall_mem_cons.1 hg.flawless
    obtain ⟨hpass, hpasses⟩ := List.forall_mem_cons.1 hg.passed
    obtain ⟨htake, htakes⟩ := List.forall_mem_cons.1 hg.taken
    have hnodup := hg.nodup
    dsimp only at hflaw hpass htake
    subst hflaw
    cases hf : s.fields.find? (·.answersTo name) with
    | none =>
      rw [Shape.named_cons_none hf] at hnodup hnew ⊢
      obtain ⟨r', hr⟩ := ih ⟨hflaws, hpasses, htakes, hnodup⟩ hnew r
      refine ⟨r', ?_⟩
      simp only [Shape.members, hf, hpass hf]
      exact hr
    | some f =>
      rw [Shape.named_cons_some hf] at hnodup hnew ⊢
      obtain ⟨y, hy, rfl, hyn⟩ := h.exists_of_find? hf
      obtain ⟨v, hv⟩ := htake y hy hyn
      obtain ⟨hother, hnodup⟩ := List.nodup_cons.1 hnodup
      obtain ⟨hfresh, hfreshes⟩ := List.forall_mem_cons.1 hnew
      have hnext : ∀ n ∈ s.named given, n ∉ y.field.name :: seen := fun n hn => by
        rw [List.mem_cons, not_or]
        exact ⟨fun he => hother (he ▸ hn), hfreshes n hn⟩
      obtain ⟨r', hr⟩ := ih ⟨hflaws, hpasses, htakes, hnodup⟩ hnext (y.put v r)
      refine ⟨r', ?_⟩
      have hstore : y.field.store d r = .ok (y.put v r) := map_eq_ok.2 ⟨v, hv, rfl⟩
      have hseen : seen.contains y.field.name = false := by simpa using hfresh
      rw [List.reverse_cons, List.append_assoc, List.singleton_append, ← hr]
      simp only [Shape.members, hf, hseen, hstore, Bool.false_eq_true, if_false]
      rfl

/-- Members that can be stored give a record, if none is missing. -/
theorem exists_take (h : Slotted s slots) (hg : Storable s slots given)
    (hrefused : ∀ f ∈ s.fields, f.absence = .refused → f.name ∈ s.named given) (mark behind : κ) :
    ∃ r, s.take (.fields mark given (.closed behind)) = .ok r := by
  obtain ⟨r, hm⟩ := h.exists_members hg (fun _ _ => List.not_mem_nil) s.blank
  have hmissing : s.missing? (s.named given).reverse = none := by
    rw [Shape.missing?, Option.map_eq_none_iff, List.find?_eq_none]
    intro f hf
    by_cases habsence : f.absence = .refused
    · simpa [habsence] using hrefused f hf habsence
    · simp [habsence]
  refine ⟨r, ?_⟩
  rw [Shape.take, hm]
  simp only [List.append_nil, bind, Except.bind, hmissing]
  rfl

/-! ## by position -/

theorem eq_of_positions_nil {fields : List (Field κ ι α)} {total index : Nat} {ending : Ending κ ι}
    (ht : s.positions mark total ending fields [] index r = .ok r') : r' = r := by
  induction fields generalizing index with
  | nil => cases ending <;> cases ht <;> rfl
  | cons f fields ih =>
    cases ending with
    | broken => cases ht
    | unreached => cases ht; rfl
    | closed behind =>
      rw [Shape.positions] at ht
      split at ht
      · exact ih ht
      · cases ht

/-- A list of fields by position leaves the slots behind its end alone. -/
theorem get_of_positions (h : Slotted s slots) {rest : List (Slot κ ι α)} (hrest : ∀ y ∈ rest, y ∈ slots)
    (hnodup : (rest.map Slot.name).Nodup) {items : List (Option ι × Datum κ ι)} {total index : Nat}
    {ending : Ending κ ι}
    (ht : s.positions mark total ending (rest.map Slot.field) items index r = .ok r')
    (hx : x ∈ rest.drop items.length) : x.get r' = x.get r := by
  induction rest generalizing items index r with
  | nil => cases (List.drop_nil ▸ hx : x ∈ [])
  | cons y rest ih =>
    obtain ⟨hy, hrest⟩ := List.forall_mem_cons.1 hrest
    obtain ⟨hname, hnodup⟩ := List.nodup_cons.1 hnodup
    cases items with
    | nil => rw [eq_of_positions_nil ht]
    | cons item items =>
      obtain ⟨leaving, d⟩ := item
      obtain ⟨next, hstore, ht⟩ := bind_eq_ok.1 ht
      obtain ⟨v, -, rfl⟩ := map_eq_ok.1 hstore
      have hxrest : x ∈ rest := List.mem_of_mem_drop hx
      have hne : y.name ≠ x.name := fun he => hname (he ▸ List.mem_map_of_mem hxrest)
      rw [ih hrest hnodup ht hx, h.get_put_of_ne y hy x (hrest x hxrest) hne]

end Slotted

end ProxyKeeper.Data

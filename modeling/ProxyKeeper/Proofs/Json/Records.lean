/-
Records in JSON: what a text that was written is taken for.

A text is read as a tree that holds the value it was written from
(`read_chars`), with marks of its own at every place. `Take.Reads` says that
what is taken does not depend on them: any datum that holds the value will do.
It is proved of each kind of value, and of an object from its members
(`Slotted.reads_object`): each tells one slot of the record, and a slot that no
member tells holds its default (`Tells`). So a member that is taken out of an
object leaves all other slots alone (`Tells.filter`).
-/
import ProxyKeeper.Json.Decode
import ProxyKeeper.Json.Member
import ProxyKeeper.Proofs.Data.Plain
import ProxyKeeper.Proofs.Data.Record
import ProxyKeeper.Proofs.Data.Slots
import ProxyKeeper.Proofs.Json.RoundTrip

namespace ProxyKeeper

open Data

variable {κ ι α β : Type}

/-! ## data that hold a value -/

namespace Data.Datum

variable {d : Datum κ ι}

/-- What holds a value is of its kind, and holds what the value holds. -/
theorem eq_of_plain {p : Plain} (h : d.plain = .ok p) :
    match p with
    | .null _ => ∃ mark, d = .null mark
    | .number _ n => ∃ mark, d = .number mark n
    | .text _ s => ∃ mark, d = .text mark s
    | .list _ kept _ => ∃ mark items ending, d = .list mark items ending ∧ plainItems items = .ok kept ∧
        useEnding ending = .ok (.closed ())
    | .fields _ kept _ => ∃ mark given ending, d = .fields mark given ending ∧ plainMembers given = .ok kept ∧
        useEnding ending = .ok (.closed ())
    | _ => True := by
  cases d with
  | null mark =>
    cases h
    exact ⟨mark, rfl⟩
  | number mark n =>
    cases h
    exact ⟨mark, rfl⟩
  | text mark s =>
    cases h
    exact ⟨mark, rfl⟩
  | list mark items ending =>
    obtain ⟨kept, hkept, hending, rfl⟩ := plain_list_eq_ok h
    exact ⟨mark, items, ending, rfl, hkept, hending⟩
  | fields mark given ending =>
    obtain ⟨kept, hkept, hending, rfl⟩ := plain_fields_eq_ok h
    exact ⟨mark, given, ending, rfl, hkept, hending⟩
  | flag | letter =>
    cases h
    trivial
  | flawed | broken => cases h

/-- The member of a tree that holds a member of an object. -/
def HoldsMember (m : Given κ ι) (p : String × Json) : Prop :=
  m.2.1 = none ∧ m.2.2.1 = p.1 ∧ m.2.2.2.plain = .ok p.2.plain

/-- The members of a tree that holds an object have the names of its members, in their order, and hold them. -/
theorem holdsMember_of_plain {given : List (Given κ ι)} {members : List (String × Json)}
    (h : plainMembers given = .ok (Json.plainMembers members)) :
    given.map (·.2.2.1) = members.map (·.1) ∧ ∀ m ∈ given, ∃ p ∈ members, HoldsMember m p := by
  induction given generalizing members with
  | nil =>
    cases members with
    | nil => exact ⟨rfl, fun _ hm => absurd hm List.not_mem_nil⟩
    | cons p rest => cases h
  | cons m given ih =>
    obtain ⟨mark, flaw, name, d⟩ := m
    cases members with
    | nil =>
      obtain ⟨-, _, _, -, -, he⟩ := plainMembers_cons_eq_ok h
      cases he
    | cons p rest =>
      obtain ⟨hflaw, v, others, hv, hothers, he⟩ := plainMembers_cons_eq_ok h
      obtain ⟨hp, hrest⟩ := List.cons.inj he
      cases hp
      obtain ⟨hnames, hholds⟩ := ih (hrest ▸ hothers)
      refine ⟨congrArg (_ :: ·) hnames, List.forall_mem_cons.2 ⟨⟨p, List.mem_cons_self, hflaw, rfl, hv⟩, ?_⟩⟩
      intro m hm
      obtain ⟨q, hq, hmq⟩ := hholds m hm
      exact ⟨q, List.mem_cons_of_mem _ hq, hmq⟩

end Data.Datum

/-! ## values -/

namespace Data.Take

/-- Every datum that holds the value is taken for `a`. -/
def Reads (take : Take κ ι α) (v : Json) (a : α) : Prop := ∀ d : Datum κ ι, d.plain = .ok v.plain → take d = .ok a

variable {take : Take κ ι α}

theorem Reads.map {v : Json} {a : α} (h : take.Reads v a) (f : α → β) : (take.map f).Reads v (f a) := fun d hd => by
  rw [Take.map, h d hd]
  rfl

theorem reads_text (s : String) : (text : Take κ ι String).Reads (toJson s) s := fun d hd => by
  obtain ⟨mark, rfl⟩ := d.eq_of_plain hd
  rfl

theorem reads_natural {bound n : Nat} (h : n < bound) (label : String) :
    (natural bound label : Take κ ι Nat).Reads (toJson n) n := fun d hd => by
  obtain ⟨mark, rfl⟩ := d.eq_of_plain hd
  exact natural_eq_ok rfl h label mark

variable [ToJson α]

/-- An option is written as null or as the value that it holds, which is not null itself. -/
theorem reads_orNull (htake : ∀ a, take.Reads (toJson a) a) (hnull : ∀ a : α, toJson a ≠ .null) (o : Option α) :
    (orNull take).Reads (toJson o) o := fun d hd => by
  cases o with
  | none =>
    obtain ⟨mark, rfl⟩ := d.eq_of_plain hd
    rfl
  | some a =>
    have ha : take d = .ok a := htake a d hd
    have hmark : ∀ mark, d ≠ .null mark := by
      rintro mark rfl
      have hplain : (toJson a).plain = .null () := (Except.ok.inj hd).symm
      cases hw : toJson a with
      | null => exact hnull a hw
      | bool | number | string | array | object => rw [hw] at hplain; cases hplain
    cases d with
    | null mark => exact absurd rfl (hmark mark)
    | flag | number | text | letter | list | fields | flawed | broken =>
      rw [orNull, ha]
      · rfl
      · exact hmark

theorem reads_list (htake : ∀ a, take.Reads (toJson a) a) (as : List α) : (listOf take).Reads (toJson as) as :=
    fun d hd => by
  have hitems : ∀ {as : List α} {items : List (Option ι × Datum κ ι)},
      Datum.plainItems items = .ok (Json.plainItems (as.map toJson)) → Take.items take items = .ok as := by
    intro as
    induction as with
    | nil =>
      intro items h
      cases items with
      | nil => rfl
      | cons item rest =>
        obtain ⟨_, _, -, -, he⟩ := Datum.plainItems_cons_eq_ok h
        cases he
    | cons a as ih =>
      intro items h
      cases items with
      | nil => cases h
      | cons item rest =>
        obtain ⟨leaving, d⟩ := item
        obtain ⟨p, others, hp, hothers, he⟩ := Datum.plainItems_cons_eq_ok h
        obtain ⟨hp', hothers'⟩ := List.cons.inj he
        cases hp'
        rw [Take.items, htake a d hp, ih (hothers' ▸ hothers)]
        rfl
  obtain ⟨mark, items, ending, rfl, hkept, hending⟩ := d.eq_of_plain hd
  rw [listOf, hitems hkept]
  cases ending with
  | broken => cases hending
  | closed | unreached => rfl

end Data.Take

/-! ## objects -/

namespace Data.Slotted

variable {s : Shape κ ι α} {slots : List (Slot κ ι α)} {blank a b : α} {members : List (String × Json)}

/-- Members that tell a record: each tells the slot of its name, no two of them the same one, and a slot that may be
left out and is, holds its default. -/
structure Tells (slots : List (Slot κ ι α)) (blank a : α) (members : List (String × Json)) : Prop where
  distinct : (members.map (·.1)).Nodup
  given : ∀ m ∈ members, ∃ x ∈ slots, x.name = m.1 ∧ x.take.Reads m.2 (x.get a)
  omitted : ∀ x ∈ slots, x.name ∉ members.map (·.1) → x.absence ≠ .refused ∧ x.get a = x.get blank

/-- Where some of the members are taken out, their slots hold the defaults and the others what they held. -/
theorem Tells.filter (h : Tells slots blank a members) (keep : String → Bool)
    (hkept : ∀ x ∈ slots, keep x.name = true → x.get b = x.get a)
    (hgone : ∀ x ∈ slots, keep x.name = false → x.absence ≠ .refused ∧ x.get b = x.get blank) :
    Tells slots blank b (members.filter fun m => keep m.1) where
  distinct := h.distinct.sublist (List.filter_sublist.map _)
  given m hm := by
    obtain ⟨hm, hkeep⟩ := List.mem_filter.1 hm
    obtain ⟨x, hx, hname, hreads⟩ := h.given m hm
    refine ⟨x, hx, hname, ?_⟩
    rwa [hkept x hx (hname ▸ hkeep)]
  omitted x hx hn := by
    cases hkeep : keep x.name with
    | false => exact hgone x hx hkeep
    | true =>
      have hnot : x.name ∉ members.map (·.1) := by
        rintro hm
        obtain ⟨m, hm, hname⟩ := List.mem_map.1 hm
        exact hn (hname ▸ List.mem_map_of_mem (List.mem_filter.2 ⟨hm, hname ▸ hkeep⟩))
      rw [hkept x hx hkeep]
      exact h.omitted x hx hnot

/-- The names of the fields that members give, if each member is named after the slot that it tells. -/
theorem named_eq (h : Slotted s slots) {given : List (Given κ ι)}
    (hgiven : ∀ m ∈ given, ∃ x ∈ slots, x.name = m.2.2.1) : s.named given = given.map (·.2.2.1) := by
  induction given with
  | nil => rfl
  | cons m given ih =>
    obtain ⟨mark, flaw, name, d⟩ := m
    obtain ⟨⟨x, hx, hname⟩, hgiven⟩ := List.forall_mem_cons.1 hgiven
    have hname : x.name = name := hname
    have hn : name ∈ x.names := hname ▸ List.mem_cons_self
    rw [Shape.named_cons_some (h.find?_eq hx hn), ih hgiven, List.map_cons]
    exact congrArg (· :: _) hname

/-- Members that can be stored give a record also where the reader has not come to their end. -/
theorem exists_take_of_useEnding (h : Slotted s slots) {given : List (Given κ ι)} (hg : Storable s slots given)
    (hrefused : ∀ f ∈ s.fields, f.absence = .refused → f.name ∈ s.named given) (mark : κ) {ending : Ending κ ι}
    (hending : Datum.useEnding ending = .ok (.closed ())) : ∃ r, s.take (.fields mark given ending) = .ok r := by
  cases ending with
  | broken => cases hending
  | closed behind => exact h.exists_take hg hrefused mark behind
  | unreached =>
    obtain ⟨r, hm⟩ := h.exists_members hg (fun _ _ => List.not_mem_nil) s.blank
    refine ⟨r, ?_⟩
    rw [Shape.take, hm]
    rfl

/-- An object is taken for the record that its members tell. -/
theorem reads_object (h : Slotted s slots) (ht : Tells slots s.blank a members)
    (hext : ∀ b, (∀ x ∈ slots, x.get b = x.get a) → b = a) : s.take.Reads (.object members) a := fun d hd => by
  obtain ⟨mark, given, ending, rfl, hkept, hending⟩ := d.eq_of_plain hd
  obtain ⟨hnames, hholds⟩ := Datum.holdsMember_of_plain hkept
  -- Each member of the tree tells the slot of its name.
  have htold : ∀ m ∈ given, m.2.1 = none ∧ ∃ x ∈ slots, x.name = m.2.2.1 ∧ x.take m.2.2.2 = .ok (x.get a) := by
    intro m hm
    obtain ⟨p, hp, hflaw, hname, hplain⟩ := hholds m hm
    obtain ⟨x, hx, hxname, hreads⟩ := ht.given p hp
    exact ⟨hflaw, x, hx, hxname.trans hname.symm, hreads _ hplain⟩
  have hslot : ∀ m ∈ given, ∀ x ∈ slots, m.2.2.1 ∈ x.names → x.take m.2.2.2 = .ok (x.get a) := by
    intro m hm x hx hn
    obtain ⟨-, y, hy, hname, htake⟩ := htold m hm
    rwa [h.eq_of_mem_names hx hy hn (hname ▸ List.mem_cons_self)]
  have hnamed : s.named given = given.map (·.2.2.1) := h.named_eq fun m hm => by
    obtain ⟨-, x, hx, hname, -⟩ := htold m hm
    exact ⟨x, hx, hname⟩
  have hg : Storable s slots given := by
    refine ⟨fun m hm => (htold m hm).1, fun m hm hnone => ?_, fun m hm x hx hn => ⟨_, hslot m hm x hx hn⟩, ?_⟩
    · obtain ⟨-, x, hx, hname, -⟩ := htold m hm
      exact absurd (hname ▸ List.mem_cons_self) (h.not_mem_names_of_find? hnone hx)
    · rw [hnamed, hnames]
      exact ht.distinct
  have hrefused : ∀ f ∈ s.fields, f.absence = .refused → f.name ∈ s.named given := by
    intro f hf habsence
    rw [h.fields] at hf
    obtain ⟨x, hx, rfl⟩ := List.mem_map.1 hf
    rw [hnamed, hnames]
    exact Classical.byContradiction fun hn => (ht.omitted x hx hn).1 habsence
  obtain ⟨r, hr⟩ := h.exists_take_of_useEnding hg hrefused mark hending
  rw [hr, hext r fun x hx => ?_]
  obtain ⟨hgiven, hdefault⟩ := h.holds hr hx
  by_cases hn : x.name ∈ members.map (·.1)
  · obtain ⟨m, hm, hname⟩ := List.mem_map.1 (hnames ▸ hn)
    have hxn : m.2.2.1 ∈ x.names := hname ▸ List.mem_cons_self
    exact Except.ok.inj ((hgiven m hm hxn).symm.trans (hslot m hm x hx hxn))
  · refine (hdefault fun m hm hxn => hn ?_).trans (ht.omitted x hx hn).2.symm
    obtain ⟨-, y, hy, hname, -⟩ := htold m hm
    rw [h.eq_of_mem_names hx hy hxn (hname ▸ List.mem_cons_self), hname, ← hnames]
    exact List.mem_map_of_mem hm

end Data.Slotted

/-! ## texts -/

namespace Json

theorem readableItems_iff {left : Nat} {items : List Json} :
    ReadableItems left items ↔ ∀ v ∈ items, v.Readable left := by
  induction items with
  | nil => simp [ReadableItems]
  | cons v rest ih => simp [ReadableItems, ih]

theorem readableMembers_iff {left : Nat} {members : List (String × Json)} :
    ReadableMembers left members ↔ ∀ m ∈ members, m.2.Readable left := by
  induction members with
  | nil => simp [ReadableMembers]
  | cons m rest ih => simp [ReadableMembers, ih]

/-- What is taken from the text of a value is what the value is taken for. -/
theorem decodePlaced_render {take : Take Nat Issue α} {v : Json} {a : α} (h : take.Reads v a)
    (hv : v.Readable depthLimit) : decodePlaced take v.render.toList = .ok a := by
  obtain ⟨t, hread, ht⟩ := read_chars hv
  rw [decodePlaced, decodeText, render, String.toList_ofList, hread]
  simp only [h t ht]
  rfl

end Json

end ProxyKeeper

/-
Records of which every field may be left out, as they are taken from layers.

What is taken from one group over another, slot by slot, is what the upper group
gives, or what was taken from the lower one (`Optional.take_overlay`). Where all
the slots are single values, what the upper group gives does not depend on the
lower one (`Flat.take_overlay`). Over the defaults, a record may also be given
by position: what is behind the end of the list then is as it is by default
(`Flat.get_of_absent`).
-/
import ProxyKeeper.Config.Wire
import ProxyKeeper.Proofs.Config.Layers
import ProxyKeeper.Proofs.Config.Records
import ProxyKeeper.Proofs.Data.Slots

namespace ProxyKeeper.Config

open Data Setting

variable {α : Type}

/-! ## groups as members -/

abbrev SettingSlot (α : Type) := Slot (List String) Empty α

theorem lookup_of_mem {entries : Entries} (h : (entries.map (·.1)).Nodup) {name : String} {v : Setting}
    (hm : (name, v) ∈ entries) : entries.lookup name = some v := by
  induction entries with
  | nil => cases hm
  | cons entry rest ih =>
    obtain ⟨other, w⟩ := entry
    obtain ⟨hother, hrest⟩ := List.nodup_cons.1 h
    rw [lookup_cons]
    rcases List.mem_cons.1 hm with he | hrestm
    · cases he
      exact if_pos rfl
    · rw [if_neg, ih hrest hrestm]
      rintro rfl
      exact hother (List.mem_map.2 ⟨_, hrestm, rfl⟩)

theorem mem_of_lookup {entries : Entries} {name : String} {v : Setting} (h : entries.lookup name = some v) :
    (name, v) ∈ entries := by
  induction entries with
  | nil => cases h
  | cons entry rest ih =>
    obtain ⟨other, w⟩ := entry
    rw [lookup_cons] at h
    split at h
    · rename_i hn
      cases h
      exact hn ▸ List.mem_cons_self
    · exact List.mem_cons_of_mem _ (ih h)

/-- A record of which every field may be left out and has one name. -/
structure Optional (s : Shape (List String) Empty α) (slots : List (SettingSlot α)) : Prop extends Slotted s slots where
  plain : ∀ x ∈ slots, x.names = [x.name]
  optional : ∀ x ∈ slots, x.absence ≠ .refused

namespace Optional

variable {s : Shape (List String) Empty α} {slots : List (SettingSlot α)} {low high entries : Entries}
  {path : List String} {r r' : α} {x : SettingSlot α}

theorem named_sublist (h : Optional s slots) (path : List String) (entries : Entries) :
    (s.named (datumEntries path entries)).Sublist (entries.map (·.1)) := by
  induction entries with
  | nil => exact .slnil
  | cons entry rest ih =>
    obtain ⟨name, v⟩ := entry
    rw [datumEntries, List.map_cons]
    cases hf : s.fields.find? (·.answersTo name) with
    | none =>
      rw [Shape.named_cons_none hf]
      exact ih.cons _
    | some f =>
      obtain ⟨y, hy, rfl, hyn⟩ := h.exists_of_find? hf
      rw [h.plain y hy, List.mem_singleton] at hyn
      rw [Shape.named_cons_some hf, hyn]
      exact ih.cons_cons _

/-- What the slots hold that were taken from a group. -/
theorem holds_group (h : Optional s slots) (hsorted : Sorted entries)
    (ht : s.take ((group entries).datum path) = .ok r) (hx : x ∈ slots) :
    (∀ v, entries.lookup x.name = some v → x.take (v.datum (path ++ [x.name])) = .ok (x.get r)) ∧
      (entries.lookup x.name = none → x.get r = x.get s.blank) := by
  obtain ⟨hgiven, hkept⟩ := h.holds ht hx
  rw [datumEntries_eq, List.forall_mem_map] at hgiven hkept
  constructor
  · intro v hv
    exact hgiven (x.name, v) (mem_of_lookup hv) List.mem_cons_self
  · intro hnone
    refine hkept fun p hp hn => ?_
    rw [h.plain x hx, List.mem_singleton] at hn
    rw [← hn, lookup_of_mem hsorted.nodup hp] at hnone
    cases hnone

/-- A group of which each slot can take what it is given. -/
theorem exists_group (h : Optional s slots) (hsorted : Sorted entries)
    (htake : ∀ x ∈ slots, ∀ v, entries.lookup x.name = some v → ∃ a, x.take (v.datum (path ++ [x.name])) = .ok a) :
    ∃ r, s.take ((group entries).datum path) = .ok r := by
  refine h.exists_take (.of_plain ?_ (hsorted.nodup.sublist (h.named_sublist path entries))) ?_ path path
  · rw [datumEntries_eq, List.forall_mem_map]
    rintro ⟨name, v⟩ hp x hx hn
    rw [h.plain x hx, List.mem_singleton] at hn
    dsimp only at hn
    subst hn
    exact htake x hx v (lookup_of_mem hsorted.nodup hp)
  · rw [h.fields, List.forall_mem_map]
    exact fun x hx ha => absurd ha (h.optional x hx)

/-- A slot for which two groups have the same entry. -/
theorem get_eq (h : Optional s slots) (hlow : Sorted low) (hhigh : Sorted high)
    (ht : s.take ((group low).datum path) = .ok r) (ht' : s.take ((group high).datum path) = .ok r') (hx : x ∈ slots)
    (hsame : high.lookup x.name = low.lookup x.name) : x.get r' = x.get r := by
  obtain ⟨hgiven, hkept⟩ := h.holds_group hlow ht hx
  obtain ⟨hgiven', hkept'⟩ := h.holds_group hhigh ht' hx
  cases hold : low.lookup x.name with
  | none => rw [hkept hold, hkept' (hsame.trans hold)]
  | some v => exact Except.ok.inj ((hgiven' v (hsame.trans hold)).symm.trans (hgiven v hold))

/-- **One layer over another**: if the lower one gives a record, and of the upper one each slot can take what it gives,
then a slot holds that, and if it is given nothing it holds what it held. -/
theorem take_overlay (h : Optional s slots) (hlow : Sorted low) (hhigh : Sorted high)
    (ht : s.take ((group low).datum path) = .ok r)
    (htake : ∀ x ∈ slots, ∀ v, high.lookup x.name = some v →
      ∃ a, x.take ((laid low x.name v).datum (path ++ [x.name])) = .ok a) :
    ∃ r', s.take ((group (overlayEntries low high)).datum path) = .ok r' ∧ ∀ x ∈ slots,
      (∀ v, high.lookup x.name = some v → x.take ((laid low x.name v).datum (path ++ [x.name])) = .ok (x.get r')) ∧
        (high.lookup x.name = none → x.get r' = x.get r) := by
  have hlookup := lookup_overlayEntries hlow hhigh.nodup
  have hsorted : Sorted (overlayEntries low high) := hlow.overlayEntries high
  have hall : ∀ x ∈ slots, ∀ v, (overlayEntries low high).lookup x.name = some v →
      ∃ a, x.take (v.datum (path ++ [x.name])) = .ok a := by
    intro x hx v hv
    rw [hlookup] at hv
    cases hup : high.lookup x.name with
    | none =>
      rw [hup] at hv
      exact ⟨_, (h.holds_group hlow ht hx).1 v hv⟩
    | some w =>
      rw [hup] at hv
      obtain rfl := Option.some.inj hv
      exact htake x hx w hup
  obtain ⟨r', hr⟩ := h.exists_group hsorted hall
  refine ⟨r', hr, fun x hx => ⟨fun v hv => ?_, fun hnone => ?_⟩⟩
  · exact (h.holds_group hsorted hr hx).1 _ (by rw [hlookup, hv])
  · exact h.get_eq hlow hsorted ht hr hx (by rw [hlookup, hnone])

end Optional

/-! ## sections -/

/-- Groups are joined; whatever else is on top counts alone. -/
theorem overlay_cases (old v : Setting) :
    (∃ low high, old = .group low ∧ v = .group high) ∨ old.overlay v = v := by
  cases old with
  | group low =>
    cases v with
    | group high => exact .inl ⟨low, high, rfl, rfl⟩
    | null | flag | number | text | letter | list =>
      right
      rw [overlay]
      intro _ _ _ h
      cases h
  | null | flag | number | text | letter | list =>
    right
    rw [overlay]
    intro _ _ h
    cases h

theorem overlay_of_not_group {v : Setting} (h : ∀ entries, v ≠ .group entries) (old : Setting) : old.overlay v = v := by
  rcases overlay_cases old v with ⟨_, high, _, hv⟩ | hv
  · exact absurd hv (h high)
  · exact hv

/-- If the setting is a group, its entries are in order. -/
def Ordered (v : Setting) : Prop := ∀ entries, v = .group entries → Sorted entries

theorem Ordered.overlay {old v : Setting} (hold : Ordered old) (hv : Ordered v) : Ordered (old.overlay v) := by
  intro entries he
  rcases overlay_cases old v with ⟨low, high, rfl, rfl⟩ | hupper
  · rw [overlay_group, group.injEq] at he
    exact he ▸ (hold low rfl).overlayEntries high
  · exact hv entries (hupper ▸ he)

/-- A record of single values: none of its slots takes a group. -/
structure Flat (s : Shape (List String) Empty α) (slots : List (SettingSlot α)) : Prop extends Optional s slots where
  single : ∀ x ∈ slots, ∀ path entries a, x.take ((group entries).datum path) ≠ .ok a

/-- A record is given by name or by position. -/
theorem takeRecord_eq_ok {s : Shape (List String) Empty α} {v : Setting} {path : List String} {r : α}
    (h : takeRecord s (v.datum path) = .ok r) : (∃ entries, v = .group entries) ∨ ∃ items, v = .list items := by
  cases v with
  | group entries => exact .inl ⟨entries, rfl⟩
  | list items => exact .inr ⟨items, rfl⟩
  | null | flag | number | text | letter => cases h

theorem length_datumItems (path : List String) (index : Nat) (items : List Setting) :
    (datumItems path index items).length = items.length := by
  induction items generalizing index with
  | nil => rfl
  | cons v items ih => rw [datumItems, List.length_cons, List.length_cons, ih]

namespace Flat

variable {s : Shape (List String) Empty α} {slots : List (SettingSlot α)} {low base high : Entries}
  {path : List String} {r : α} {x : SettingSlot α} {v old : Setting}

theorem overlay_eq (h : Flat s slots) (hx : x ∈ slots) {a : x.Value} (ht : x.take (v.datum path) = .ok a)
    (old : Setting) : old.overlay v = v :=
  overlay_of_not_group (fun entries he => h.single x hx path entries a (he ▸ ht)) old

/-- Settings by name over a section that is not given by position. -/
theorem take_overlay (h : Flat s slots) (hold : Ordered old) (hlist : ∀ items, old ≠ .list items)
    (ht : takeRecord s (old.datum path) = .ok r) (hhigh : Sorted high)
    (htake : ∀ x ∈ slots, ∀ v, high.lookup x.name = some v → ∃ a, x.take (v.datum (path ++ [x.name])) = .ok a) :
    ∃ r', takeRecord s ((old.overlay (.group high)).datum path) = .ok r' ∧ ∀ x ∈ slots,
      (∀ v, high.lookup x.name = some v → x.take (v.datum (path ++ [x.name])) = .ok (x.get r')) ∧
        (high.lookup x.name = none → x.get r' = x.get r) := by
  obtain ⟨low, rfl⟩ | ⟨items, rfl⟩ := takeRecord_eq_ok ht
  · have hlaid : ∀ x ∈ slots, ∀ v, high.lookup x.name = some v → laid low x.name v = v := by
      intro x hx v hv
      obtain ⟨a, ha⟩ := htake x hx v hv
      rw [laid]
      cases low.lookup x.name with
      | none => rfl
      | some w => exact h.overlay_eq hx ha w
    obtain ⟨r', hr, hslots⟩ := h.toOptional.take_overlay (hold low rfl) hhigh ht fun x hx v hv => by
      rw [hlaid x hx v hv]
      exact htake x hx v hv
    rw [overlay_group]
    refine ⟨r', hr, fun x hx => ⟨fun v hv => ?_, (hslots x hx).2⟩⟩
    have hgiven := (hslots x hx).1 v hv
    rwa [hlaid x hx v hv] at hgiven
  · exact absurd rfl (hlist items)

/-- A section given by position leaves what is behind its end as it is by default. -/
theorem get_of_list (h : Flat s slots) {items : List Setting}
    (ht : takeRecord s ((Setting.list items).datum path) = .ok r) {i : Nat} (hx : slots[i]? = some x)
    (hi : items.length ≤ i) : x.get r = x.get s.blank := by
  obtain ⟨hlt, rfl⟩ := List.getElem?_eq_some_iff.1 hx
  rw [Setting.datum, takeRecord, Shape.take, h.fields] at ht
  refine h.get_of_positions (fun _ hy => hy) (h.distinct.sublist (Slot.map_name_sublist slots)) ht ?_
  rw [List.length_take, length_datumItems, List.mem_drop_iff_getElem]
  exact ⟨i - min (slots.map Slot.field).length items.length, by omega, by congr 1; omega⟩

/-- What of a section over the defaults is given neither by name nor by position is as it is by default. -/
theorem get_of_absent (h : Flat s slots) (hbase : Sorted base)
    (hdefault : s.take ((group base).datum path) = .ok s.blank) (hv : Ordered v)
    (ht : takeRecord s (((group base).overlay v).datum path) = .ok r) {i : Nat}
    (hx : slots[i]? = some x) (hname : v.at? [x.name] = none) (hplace : ∀ items, v = .list items → items.length ≤ i) :
    x.get r = x.get s.blank := by
  have hmem := List.mem_of_getElem? hx
  cases v with
  | group entries =>
    rw [overlay_group] at ht
    have hlookup := lookup_overlayEntries hbase (hv entries rfl).nodup x.name
    have hnone : entries.lookup x.name = none := (at?_name entries x.name).symm.trans hname
    exact h.get_eq hbase (hbase.overlayEntries entries) hdefault ht hmem (by rw [hlookup, hnone])
  | list items =>
    rw [overlay_of_not_group (fun _ h => by cases h)] at ht
    exact h.get_of_list ht hx (hplace items rfl)
  | null | flag | number | text | letter =>
    rw [overlay_of_not_group (fun _ h => by cases h)] at ht
    cases ht

end Flat

end ProxyKeeper.Config

/-
What is taken from data: a number by its value, in whatever form it is given,
and a record by the names of its fields, in whatever order they are given.

`Shape.Fills` says what each member does to a record of which some fields are
stored already, whichever they are. So the record that comes of all members is
known from the names that are given (`Shape.take_of_fills`).
-/
import ProxyKeeper.Data.Record

namespace ProxyKeeper.Data

variable {κ ι α : Type} {s : Shape κ ι α} {given : List (κ × Option ι × String × Datum κ ι)}
  {partly : List String → α} {seen : List String}

theorem Take.natural_eq_ok {bound n : Nat} {number : Number} (hn : number.natural? = some n) (hlt : n < bound)
    (expected : String) (mark : κ) : Take.natural (ι := ι) bound expected (.number mark number) = .ok n := by
  cases number with
  | float bits => cases hn
  | natural m | integer i => simp only [Take.natural, hn, Option.filter_some, decide_eq_true hlt, if_true]

namespace Shape

/-- Each member stores the field of its name: `partly` tells what the record is when the fields of these names are
stored. -/
def Fills (s : Shape κ ι α) (partly : List String → α) (given : List (κ × Option ι × String × Datum κ ι)) : Prop :=
  ∀ member ∈ given, member.2.1 = none ∧ ∃ f, s.fields.find? (·.answersTo member.2.2.1) = some f ∧
    f.name = member.2.2.1 ∧ ∀ seen, f.store member.2.2.2 (partly seen) = .ok (partly (member.2.2.1 :: seen))

theorem members_of_fills (h : s.Fills partly given) (hnodup : (given.map (·.2.2.1)).Nodup)
    (hnew : ∀ member ∈ given, member.2.2.1 ∉ seen) :
    s.members given seen (partly seen) =
      .ok ((given.map (·.2.2.1)).reverse ++ seen, partly ((given.map (·.2.2.1)).reverse ++ seen)) := by
  induction given generalizing seen with
  | nil => rfl
  | cons member given ih =>
    obtain ⟨mark, flaw, name, d⟩ := member
    obtain ⟨⟨hflaw, f, hfind, hname, hstore⟩, hrest⟩ := List.forall_mem_cons.1 h
    obtain ⟨hfresh, hfreshes⟩ := List.forall_mem_cons.1 hnew
    obtain ⟨hother, hothers⟩ := List.nodup_cons.1 hnodup
    dsimp only at hflaw hfind hname hstore hfresh hother
    subst hflaw
    have hseen : seen.contains name = false := by simpa using hfresh
    have hnext : ∀ member ∈ given, member.2.2.1 ∉ name :: seen := fun member hm => by
      rw [List.mem_cons, not_or]
      refine ⟨fun he => hother ?_, hfreshes member hm⟩
      rw [← he]
      exact List.mem_map_of_mem hm
    rw [List.map_cons, List.reverse_cons, List.append_assoc, List.singleton_append, ← ih hrest hothers hnext,
      members, hfind]
    · simp only [hname, hseen, hstore, Bool.false_eq_true, if_false]
      rfl
    · exact nofun

/-- The record that members of all names that have to be given come to. -/
theorem take_of_fills {behind : κ} (mark : κ) (h : s.Fills partly given) (hblank : partly [] = s.blank)
    (hnodup : (given.map (·.2.2.1)).Nodup)
    (hrefused : ∀ f ∈ s.fields, f.absence = .refused → f.name ∈ given.map (·.2.2.1)) :
    s.take (.fields mark given (.closed behind)) = .ok (partly (given.map (·.2.2.1)).reverse) := by
  have hmembers : s.members given [] (partly []) = _ := members_of_fills h hnodup fun _ _ => List.not_mem_nil
  have hmissing : s.missing? (given.map (·.2.2.1)).reverse = none := by
    rw [missing?, Option.map_eq_none_iff, List.find?_eq_none]
    intro f hf
    by_cases habsence : f.absence = .refused
    · simpa [habsence] using hrefused f hf habsence
    · simp [habsence]
  rw [List.append_nil, hblank] at hmembers
  rw [take, hmembers]
  simp only [bind, Except.bind, hmissing]
  rfl

end Shape

end ProxyKeeper.Data

/-
A datum without its marks: each kind of datum is known by what it holds, and
what a datum holds, holds itself (`plain_plain`). So who takes a value from a
datum may as well take it from what the datum holds, if he puts parts of it
aside on the way.
-/
import ProxyKeeper.Data.Datum
import ProxyKeeper.Proofs.Results

namespace ProxyKeeper.Data.Datum

variable {κ ι : Type} {mark : κ} {d : Datum κ ι} {items : List (Option ι × Datum κ ι)}
  {members : List (κ × Option ι × String × Datum κ ι)} {ending : Ending κ ι} {p : Plain}

/-! ## parts -/

/-- An ending at which nothing is reported is kept as a closed one. -/
theorem useEnding_eq_ok {behind : Ending Unit Empty} (h : useEnding ending = .ok behind) :
    behind = .closed () ∧ ∀ used skipped leaving, ending ≠ .broken used skipped leaving := by
  cases ending with
  | broken used skipped leaving => cases h
  | closed behind | unreached =>
    cases h
    exact ⟨rfl, fun _ _ _ h => by cases h⟩

theorem plain_list_eq_ok (h : (list mark items ending).plain = .ok p) :
    ∃ kept, plainItems items = .ok kept ∧ useEnding ending = .ok (.closed ()) ∧ p = .list () kept (.closed ()) := by
  rw [plain] at h
  obtain ⟨kept, hkept, h⟩ := bind_eq_ok.1 h
  obtain ⟨behind, hbehind, h⟩ := bind_eq_ok.1 h
  cases h
  obtain ⟨rfl, -⟩ := useEnding_eq_ok hbehind
  exact ⟨kept, hkept, hbehind, rfl⟩

theorem plain_fields_eq_ok (h : (fields mark members ending).plain = .ok p) :
    ∃ kept, plainMembers members = .ok kept ∧ useEnding ending = .ok (.closed ()) ∧
      p = .fields () kept (.closed ()) := by
  rw [plain] at h
  obtain ⟨kept, hkept, h⟩ := bind_eq_ok.1 h
  obtain ⟨behind, hbehind, h⟩ := bind_eq_ok.1 h
  cases h
  obtain ⟨rfl, -⟩ := useEnding_eq_ok hbehind
  exact ⟨kept, hkept, hbehind, rfl⟩

theorem plainItems_cons_eq_ok {leaving : Option ι} {kept : List (Option Empty × Plain)}
    (h : plainItems ((leaving, d) :: items) = .ok kept) :
    ∃ p rest, d.plain = .ok p ∧ plainItems items = .ok rest ∧ kept = (none, p) :: rest := by
  rw [plainItems] at h
  obtain ⟨p, hp, h⟩ := bind_eq_ok.1 h
  obtain ⟨rest, hrest, h⟩ := bind_eq_ok.1 h
  cases h
  exact ⟨p, rest, hp, hrest, rfl⟩

theorem plainMembers_cons_eq_ok {flaw : Option ι} {name : String}
    {kept : List (Unit × Option Empty × String × Plain)}
    (h : plainMembers ((mark, flaw, name, d) :: members) = .ok kept) :
    flaw = none ∧ ∃ p rest, d.plain = .ok p ∧ plainMembers members = .ok rest ∧
      kept = ((), none, name, p) :: rest := by
  cases flaw with
  | some issue => cases h
  | none =>
    simp only [plainMembers] at h
    obtain ⟨p, hp, h⟩ := bind_eq_ok.1 h
    obtain ⟨rest, hrest, h⟩ := bind_eq_ok.1 h
    cases h
    exact ⟨rfl, p, rest, hp, hrest, rfl⟩

/-! ## what a datum holds, holds itself -/

mutual

theorem plain_plain : ∀ {d : Datum κ ι} {p : Plain}, d.plain = .ok p → p.plain = .ok p
  | .null _, _, h | .flag .., _, h | .number .., _, h | .text .., _, h | .letter .., _, h => by
    cases h
    rfl
  | .list _ items ending, _, h => by
    obtain ⟨kept, hkept, -, rfl⟩ := plain_list_eq_ok h
    rw [plain, plainItems_plainItems hkept]
    rfl
  | .fields _ members ending, _, h => by
    obtain ⟨kept, hkept, -, rfl⟩ := plain_fields_eq_ok h
    rw [plain, plainMembers_plainMembers hkept]
    rfl
  | .flawed .., _, h | .broken .., _, h => by cases h

theorem plainItems_plainItems : ∀ {items : List (Option ι × Datum κ ι)} {kept : List (Option Empty × Plain)},
    plainItems items = .ok kept → plainItems kept = .ok kept
  | [], _, h => by
    cases h
    rfl
  | (_, d) :: rest, _, h => by
    obtain ⟨p, others, hp, hothers, rfl⟩ := plainItems_cons_eq_ok h
    rw [plainItems, plain_plain hp, plainItems_plainItems hothers]
    rfl

theorem plainMembers_plainMembers : ∀ {members : List (κ × Option ι × String × Datum κ ι)}
    {kept : List (Unit × Option Empty × String × Plain)},
    plainMembers members = .ok kept → plainMembers kept = .ok kept
  | [], _, h => by
    cases h
    rfl
  | (_, _, _, d) :: rest, _, h => by
    obtain ⟨-, p, others, hp, hothers, rfl⟩ := plainMembers_cons_eq_ok h
    simp only [plainMembers, plain_plain hp, plainMembers_plainMembers hothers]
    rfl

end

end ProxyKeeper.Data.Datum

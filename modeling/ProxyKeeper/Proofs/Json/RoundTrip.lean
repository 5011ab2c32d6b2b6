/-
Reading what was written: the text of a JSON value, read again, is a tree that
holds the value (`read_chars`).

It holds of the values that the reader keeps exactly (`Readable`: natural
numbers in range, no others, and not nested too deep), whatever characters
their strings are made of. Each part is read in front of any text that cannot
be taken for more of it (`Ended`); so the lemma about a list, whose elements
stand in front of a comma or a bracket, is made of those about its elements.
-/
import ProxyKeeper.Json.Reader

namespace ProxyKeeper.Json

open Data

/-! ## strings -/

theorem digitValue?_hexDigit {n : Nat} (h : n < 16) : Text.digitValue? (hexDigit n) = some n := by
  have all : ∀ n < 16, Text.digitValue? (hexDigit n) = some n := by decide
  exact all n h

theorem hexUnit?_hexDigits {n : Nat} (h : n < 256) :
    hexUnit? '0' '0' (hexDigit (n / 16)) (hexDigit (n % 16)) = some n := by
  have zero : Text.digitValue? '0' = some 0 := by decide
  simp only [hexUnit?, zero, digitValue?_hexDigit (show n / 16 < 16 by omega),
    digitValue?_hexDigit (show n % 16 < 16 by omega), Option.bind_eq_bind, Option.bind_some,
    Option.pure_def, Option.some.injEq]
  omega

theorem scanString_letter {x y : Char} (h : escaped? x = some y) (rest : List Char) (offset : Nat)
    (done : List Char) :
    scanString ('\\' :: x :: rest) offset none done none = scanString rest (offset + 2) none (y :: done) none := by
  have hx : x ≠ 'u' := by
    rintro rfl
    cases h
  rw [scanString, h]
  · exact fun _ _ _ _ _ hu _ => hx hu
  · exact hx

theorem scanString_unit {n : Nat} (h : n < 0x20) (rest : List Char) (offset : Nat) (done : List Char) :
    scanString ('\\' :: 'u' :: '0' :: '0' :: hexDigit (n / 16) :: hexDigit (n % 16) :: rest) offset none done none =
      scanString rest (offset + 6) none (Char.ofNat n :: done) none := by
  have ht : isTrailing n = false := by
    rw [isTrailing, decide_eq_false (by omega), Bool.false_and]
  have hl : isLeading n = false := by
    rw [isLeading, decide_eq_false (by omega), Bool.false_and]
  rw [scanString, hexUnit?_hexDigits (by omega)]
  simp only [ht, hl, Bool.false_eq_true, if_false]

theorem scanString_plain {c : Char} (hquote : c ≠ '"') (hslash : c ≠ '\\') (h : ¬c.toNat < 0x20)
    (rest : List Char) (offset : Nat) (done : List Char) :
    scanString (c :: rest) offset none done none = scanString rest (offset + c.utf8Size) none (c :: done) none := by
  rw [scanString, if_neg h] <;> intros <;> contradiction

/-- One character is read back from its escape. -/
theorem scanString_escapeChar (c : Char) (rest : List Char) (offset : Nat) (done : List Char) :
    ∃ behind, scanString (escapeChar c ++ rest) offset none done none =
      scanString rest behind none (c :: done) none := by
  unfold escapeChar
  split
  case h_8 hquote hslash _ _ _ _ _ =>
    split
    · rename_i hc
      have hunit := scanString_unit hc rest offset done
      rw [Char.ofNat_toNat] at hunit
      exact ⟨_, hunit⟩
    · rename_i hc
      exact ⟨_, scanString_plain hquote hslash hc rest offset done⟩
  all_goals exact ⟨_, scanString_letter rfl rest offset done⟩

theorem scanString_chars (cs rest : List Char) (offset : Nat) (done : List Char) :
    ∃ behind, scanString (cs.flatMap escapeChar ++ '"' :: rest) offset none done none =
      ⟨none, .ok (.ofList (done.reverse ++ cs), ⟨rest, behind⟩)⟩ := by
  induction cs generalizing offset done with
  | nil => exact ⟨offset + 1, by simp [scanString]⟩
  | cons c cs ih =>
    obtain ⟨offset', hc⟩ := scanString_escapeChar c (cs.flatMap escapeChar ++ '"' :: rest) offset done
    obtain ⟨behind, hcs⟩ := ih offset' (c :: done)
    refine ⟨behind, ?_⟩
    rw [List.flatMap_cons, List.append_assoc, hc, hcs]
    simp

/-- A string is read back from behind its opening quote. -/
theorem scanString_stringChars (s : String) (rest : List Char) (offset : Nat) :
    ∃ behind, scanString (stringChars s ++ rest).tail offset none [] none =
      ⟨none, .ok (s, ⟨rest, behind⟩)⟩ := by
  obtain ⟨behind, h⟩ := scanString_chars s.toList rest offset []
  refine ⟨behind, ?_⟩
  simpa [stringChars] using h

/-! ## numbers -/

/-- The text is not one that a number in front of it would go on with. -/
def Ended (rest : List Char) : Prop :=
  ∀ c ∈ rest.head?, c.isDigit = false ∧ c ≠ '.' ∧ c ≠ 'e' ∧ c ≠ 'E'

theorem Ended.nil : Ended [] := fun _ h => by cases h

theorem ended_cons {c : Char} (h : c.isDigit = false ∧ c ≠ '.' ∧ c ≠ 'e' ∧ c ≠ 'E') (rest : List Char) :
    Ended (c :: rest) := fun d hd => by
  cases hd
  exact h

theorem Ended.takeWhile {rest : List Char} (h : Ended rest) : rest.takeWhile Char.isDigit = [] := by
  cases rest with
  | nil => rfl
  | cons c more => exact List.takeWhile_cons_of_neg (Bool.eq_false_iff.1 (h c rfl).1)

theorem Ended.head? {rest : List Char} (h : Ended rest) :
    rest.head?.any Char.isDigit = false ∧ (rest.head? == some '.') = false ∧
      (rest.head? == some 'e') = false ∧ (rest.head? == some 'E') = false := by
  cases rest with
  | nil => exact ⟨rfl, rfl, rfl, rfl⟩
  | cons c more => simpa using h c rfl

theorem le_ofDigitChars (digits : List Char) (n : Nat) : n ≤ Nat.ofDigitChars 10 digits n := by
  induction digits generalizing n with
  | nil => exact Nat.le_refl n
  | cons c digits ih =>
    rw [Nat.ofDigitChars_cons]
    exact Nat.le_trans (by omega) (ih _)

/-- Below the bound all digits are taken in. -/
theorem absorb_eq {bound : Nat} {digits : List Char} {n : Nat} (h : Nat.ofDigitChars 10 digits n < bound) :
    absorb bound digits n = (Nat.ofDigitChars 10 digits n, []) := by
  induction digits generalizing n with
  | nil => rfl
  | cons c digits ih =>
    rw [Nat.ofDigitChars_cons] at h ⊢
    have hc : 10 * n + digitValue c < bound := Nat.lt_of_le_of_lt (le_ofDigitChars digits _) h
    rw [absorb, if_pos hc]
    exact ih h

/-- Only zero is written with a zero in front. -/
theorem eq_nil_of_toDigits_zero {n : Nat} {digits : List Char} (h : Nat.toDigits 10 n = '0' :: digits) :
    digits = [] := by
  induction n using Nat.strongRecOn generalizing digits with
  | ind n ih =>
    by_cases hn : n < 10
    · rw [Nat.toDigits_of_lt_base hn] at h
      exact (List.cons.inj h).2.symm
    · exfalso
      rw [Nat.toDigits_of_base_le (by decide) (by omega), List.append_eq_cons_iff] at h
      rcases h with ⟨h, -⟩ | ⟨more, h, -⟩
      · exact Nat.toDigits_ne_nil h
      · have hzero : n / 10 = 0 := by
          rw [← Nat.ofDigitChars_ten_toDigits (n := n / 10), h, ih (n / 10) (by omega) h]
          rfl
        omega

/-- A natural number in range is what its digits stand for. -/
theorem value_natural {n : Nat} (hn : n < naturalBound) :
    NumberText.value ⟨false, Nat.toDigits 10 n, [], none, false⟩ = .ok (.natural n) := by
  have hvalue : Nat.ofDigitChars 10 (Nat.toDigits 10 n) 0 = n := Nat.ofDigitChars_ten_toDigits
  have habsorb : absorb naturalBound (Nat.toDigits 10 n) 0 = (n, []) := by
    rw [absorb_eq (hvalue.symm ▸ hn), hvalue]
  simp [NumberText.value, habsorb]

/-- The digits of a number are read to their end, with a minus in front or without one. -/
theorem scanNumber_digits {n : Nat} {number : Number} {negative : Bool}
    (hvalue : NumberText.value ⟨negative, Nat.toDigits 10 n, [], none, false⟩ = .ok number) {rest : List Char}
    (hrest : Ended rest) (offset : Nat) :
    ∃ behind, scanNumber ⟨(if negative then ['-'] else []) ++ (Nat.toDigits 10 n ++ rest), offset⟩ =
      ⟨none, .ok (number, ⟨rest, behind⟩)⟩ := by
  have hdigits : ∀ c ∈ Nat.toDigits 10 n, c.isDigit = true := fun c hc =>
    Nat.isDigit_of_mem_toDigits (by decide) (by decide) hc
  have hzero : ∀ digits, Nat.toDigits 10 n = '0' :: digits → digits = [] := fun _ => eq_nil_of_toDigits_zero
  have hwhole : (Nat.toDigits 10 n ++ rest).takeWhile Char.isDigit = Nat.toDigits 10 n := by
    rw [List.takeWhile_append_of_pos hdigits, hrest.takeWhile, List.append_nil]
  obtain ⟨hdigit, hpoint, he, hE⟩ := hrest.head?
  cases hd : Nat.toDigits 10 n with
  | nil => exact absurd hd Nat.toDigits_ne_nil
  | cons first more =>
    rw [hd] at hdigits hzero hwhole hvalue
    have hfirst : first.isDigit = true := hdigits first List.mem_cons_self
    have hminus : (first == '-') = false := beq_false_of_ne fun h => by
      rw [h] at hfirst
      cases hfirst
    have hlead : ¬(first = '0' ∧ (more.head?.or rest.head?).any Char.isDigit = true) := by
      rintro ⟨h0, hany⟩
      rw [hzero more (h0 ▸ rfl), List.head?_nil, Option.none_or, hdigit] at hany
      cases hany
    simp only [List.cons_append] at hwhole
    cases negative with
    | false =>
      refine ⟨offset + (first :: more).length, ?_⟩
      simp [scanNumber, scanNumber.finish, Cursor.ahead, hminus, hfirst, hlead, hwhole, hpoint, he, hE, hvalue]
    | true =>
      refine ⟨offset + 1 + (first :: more).length, ?_⟩
      simp [scanNumber, scanNumber.finish, Cursor.ahead, hfirst, hlead, hwhole, hpoint, he, hE, hvalue]

theorem scanNumber_toDigits {n : Nat} (hn : n < naturalBound) {rest : List Char} (hrest : Ended rest)
    (offset : Nat) :
    ∃ behind, scanNumber ⟨Nat.toDigits 10 n ++ rest, offset⟩ = ⟨none, .ok (.natural n, ⟨rest, behind⟩)⟩ :=
  scanNumber_digits (value_natural hn) hrest offset

/-! ## values that are read as they are -/

mutual

/-- The values that the reader keeps exactly where this many levels may still be opened. -/
def Readable : Nat → Json → Prop
  | _, .number n => ∃ k < naturalBound, n = .natural k
  | left, .array items => 1 < left ∧ ReadableItems (left - 1) items
  | left, .object members => 1 < left ∧ ReadableMembers (left - 1) members
  | _, .null | _, .bool _ | _, .string _ => True

def ReadableItems : Nat → List Json → Prop
  | _, [] => True
  | left, v :: rest => Readable left v ∧ ReadableItems left rest

def ReadableMembers : Nat → List (String × Json) → Prop
  | _, [] => True
  | left, (_, v) :: rest => Readable left v ∧ ReadableMembers left rest

end

/-- The first character of a value tells that a value starts there. -/
def Opens (c : Char) : Prop := Cursor.isBlank c = false ∧ c ≠ ']'

theorem opens_of_isDigit {c : Char} (h : c.isDigit = true) : Opens c := by
  refine ⟨?_, ?_⟩
  · simp only [Cursor.isBlank, Bool.or_eq_false_iff, decide_eq_false_iff_not]
    refine ⟨⟨⟨?_, ?_⟩, ?_⟩, ?_⟩ <;> rintro rfl <;> cases h
  · rintro rfl
    cases h

theorem chars_natural (n : Nat) : chars (.number (.natural n)) = Nat.toDigits 10 n := by
  rw [chars, writeNumber, Nat.toString_eq_ofList_toDigits, String.toList_ofList]

theorem chars_opens {left : Nat} {v : Json} (h : v.Readable left) :
    ∃ first more, v.chars = first :: more ∧ Opens first := by
  cases v with
  | null => exact ⟨_, _, rfl, by decide, by decide⟩
  | bool b => cases b <;> exact ⟨_, _, rfl, by decide, by decide⟩
  | number n =>
    obtain ⟨k, -, rfl⟩ := h
    rw [chars_natural]
    cases hd : Nat.toDigits 10 k with
    | nil => exact absurd hd Nat.toDigits_ne_nil
    | cons first more =>
      exact ⟨first, more, rfl, opens_of_isDigit
        (Nat.isDigit_of_mem_toDigits (b := 10) (n := k) (by decide) (by decide) (hd ▸ List.mem_cons_self))⟩
  | string s => exact ⟨_, _, rfl, by decide, by decide⟩
  | array items => cases items <;> exact ⟨_, _, rfl, by decide, by decide⟩
  | object members => cases members <;> exact ⟨_, _, rfl, by decide, by decide⟩

theorem skipBlank_cons {c : Char} (h : Cursor.isBlank c = false) (rest : List Char) (offset : Nat) :
    Cursor.skipBlank ⟨c :: rest, offset⟩ = ⟨c :: rest, offset⟩ := by
  simp [Cursor.skipBlank, h]

theorem skipBlank_stringChars (s : String) (rest : List Char) (offset : Nat) :
    Cursor.skipBlank ⟨stringChars s ++ rest, offset⟩ = ⟨stringChars s ++ rest, offset⟩ :=
  skipBlank_cons (by decide) _ _

/-! ## one step of reading -/

/-- A value was read, up to the text that follows it. -/
def ReadValue (result : Tree × Option Cursor) (v : Json) (rest : List Char) : Prop :=
  ∃ t behind, result = (t, some ⟨rest, behind⟩) ∧ t.plain = .ok v.plain

/-- The items of a list were read, up to the text behind its bracket. -/
def ReadItems (result : List (Option Issue × Tree) × Ending Nat Issue × Option Cursor) (vs : List Json)
    (rest : List Char) : Prop :=
  ∃ found mark behind, result = (found, .closed mark, some ⟨rest, behind⟩) ∧
    Datum.plainItems found = .ok (plainItems vs)

/-- The members of a group were read, up to the text behind its brace. -/
def ReadMembers (result : List (Nat × Option Issue × String × Tree) × Ending Nat Issue × Option Cursor)
    (members : List (String × Json)) (rest : List Char) : Prop :=
  ∃ found mark behind, result = (found, .closed mark, some ⟨rest, behind⟩) ∧
    Datum.plainMembers found = .ok (plainMembers members)

variable {fuel left offset : Nat} {rest text : List Char}

theorem ReadItems.array {vs : List Json} (hleft : 1 < left)
    (h : ReadItems (items fuel (left - 1) (Cursor.skipBlank ⟨text, offset + 1⟩) true) vs rest) :
    ReadValue (value (fuel + 1) left ⟨'[' :: text, offset⟩) (.array vs) rest := by
  obtain ⟨found, mark, behind, hitems, hplain⟩ := h
  refine ⟨.list offset found (.closed mark), behind, ?_, ?_⟩
  · have hdepth : ¬left ≤ 1 := by omega
    simp [value, Cursor.ahead, hitems, guardDepth, hdepth]
  · rw [Datum.plain, hplain]
    rfl

theorem ReadMembers.object {vs : List (String × Json)} (hleft : 1 < left)
    (h : ReadMembers (members fuel (left - 1) (Cursor.skipBlank ⟨text, offset + 1⟩) true) vs rest) :
    ReadValue (value (fuel + 1) left ⟨'\x7b' :: text, offset⟩) (.object vs) rest := by
  obtain ⟨found, mark, behind, hmembers, hplain⟩ := h
  refine ⟨.fields offset found (.closed mark), behind, ?_, ?_⟩
  · have hdepth : ¬left ≤ 1 := by omega
    simp [value, Cursor.ahead, hmembers, guardDepth, hdepth]
  · rw [Datum.plain, hplain]
    rfl

/-- One item in front of others. -/
theorem ReadItems.cons {v : Json} {vs : List Json} {c : Cursor} (hv : ReadValue (value fuel left c) v text)
    (hvs : ∀ offset, ReadItems (items fuel left (Cursor.skipBlank ⟨text, offset⟩) false) vs rest) :
    ReadItems (element (fuel + 1) left c) (v :: vs) rest := by
  obtain ⟨t, middle, hvalue, ht⟩ := hv
  obtain ⟨found, mark, behind, hitems, hfound⟩ := hvs middle
  refine ⟨(some (c.next .trailingCharacters), t) :: found, mark, behind, ?_, ?_⟩
  · simp [element, hvalue, hitems]
  · rw [Datum.plainItems, ht, hfound]
    rfl

/-- One member in front of others. -/
theorem ReadMembers.cons {name : String} {v : Json} {vs : List (String × Json)} {first : Char} {more : List Char}
    (hopens : Opens first) (hv : ∀ offset, ReadValue (value fuel left ⟨first :: more, offset⟩) v text)
    (hvs : ∀ offset, ReadMembers (members fuel left (Cursor.skipBlank ⟨text, offset⟩) false) vs rest) :
    ReadMembers (member (fuel + 1) left ⟨stringChars name ++ ':' :: first :: more, offset⟩) ((name, v) :: vs)
      rest := by
  obtain ⟨colon, hname⟩ := scanString_stringChars name (':' :: first :: more) (offset + 1)
  obtain ⟨t, middle, hvalue, ht⟩ := hv (colon + 1)
  obtain ⟨found, mark, behind, hmembers, hfound⟩ := hvs middle
  have hblank : Cursor.isBlank ':' = false := by decide
  refine ⟨(colon, none, name, t) :: found, mark, behind, ?_, ?_⟩
  · simp [member, hname, skipBlank_cons hblank, Cursor.ahead, skipBlank_cons hopens.1, hvalue, hmembers]
  · simp only [Datum.plainMembers, ht, hfound]
    rfl

theorem readItems_nil (first : Bool) : ReadItems (items (fuel + 1) left ⟨']' :: rest, offset⟩ first) [] rest :=
  ⟨[], offset + 1, offset + 1, by simp [items, Cursor.ahead], rfl⟩

theorem readMembers_nil (first : Bool) :
    ReadMembers (members (fuel + 1) left ⟨'\x7d' :: rest, offset⟩ first) [] rest :=
  ⟨[], offset + 1, offset + 1, by simp [members, Cursor.ahead], rfl⟩

theorem items_first {first : Char} (h : Opens first) :
    items (fuel + 1) left ⟨first :: text, offset⟩ true = element fuel left ⟨first :: text, offset⟩ := by
  simp [items, h.2]

theorem items_next {first : Char} (h : Opens first) :
    items (fuel + 1) left ⟨',' :: first :: text, offset⟩ false =
      element fuel left ⟨first :: text, offset + 1⟩ := by
  simp [items, Cursor.ahead, skipBlank_cons h.1, h.2]

theorem members_first (name : String) :
    members (fuel + 1) left ⟨stringChars name ++ text, offset⟩ true =
      member fuel left ⟨stringChars name ++ text, offset⟩ := by
  simp [members, stringChars]

theorem members_next (name : String) :
    members (fuel + 1) left ⟨',' :: (stringChars name ++ text), offset⟩ false =
      member fuel left ⟨stringChars name ++ text, offset + 1⟩ := by
  have hquote : Cursor.isBlank '"' = false := by decide
  simp [members, Cursor.ahead, stringChars, skipBlank_cons hquote]

/-! ## scalars -/

theorem readValue_null (hf : 3 * Json.null.chars.length ≤ fuel) :
    ReadValue (value fuel left ⟨Json.null.chars ++ rest, offset⟩) .null rest := by
  obtain ⟨fuel, rfl⟩ : ∃ f, fuel = f + 1 := ⟨fuel - 1, by simp [chars] at hf; omega⟩
  exact ⟨.null (offset + 4), offset + 4, by simp [chars, value, value.literal, scanIdent, Cursor.ahead], rfl⟩

theorem readValue_bool {b : Bool} (hf : 3 * (Json.bool b).chars.length ≤ fuel) :
    ReadValue (value fuel left ⟨(Json.bool b).chars ++ rest, offset⟩) (.bool b) rest := by
  cases b with
  | false =>
    obtain ⟨fuel, rfl⟩ : ∃ f, fuel = f + 1 := ⟨fuel - 1, by simp [chars] at hf; omega⟩
    exact ⟨_, offset + 5, by simp [chars, value, value.literal, scanIdent, Cursor.ahead]; rfl, rfl⟩
  | true =>
    obtain ⟨fuel, rfl⟩ : ∃ f, fuel = f + 1 := ⟨fuel - 1, by simp [chars] at hf; omega⟩
    exact ⟨_, offset + 4, by simp [chars, value, value.literal, scanIdent, Cursor.ahead]; rfl, rfl⟩

theorem readValue_natural {n : Nat} (hn : n < naturalBound)
    (hf : 3 * (Json.number (.natural n)).chars.length ≤ fuel) (he : Ended rest) :
    ReadValue (value fuel left ⟨(Json.number (.natural n)).chars ++ rest, offset⟩) (.number (.natural n)) rest := by
  rw [chars_natural] at hf ⊢
  obtain ⟨behind, hscan⟩ := scanNumber_toDigits hn he offset
  cases hd : Nat.toDigits 10 n with
  | nil => exact absurd hd Nat.toDigits_ne_nil
  | cons first more =>
    rw [hd] at hf hscan
    obtain ⟨fuel, rfl⟩ : ∃ f, fuel = f + 1 := ⟨fuel - 1, by simp at hf; omega⟩
    have hfirst : first.isDigit = true :=
      Nat.isDigit_of_mem_toDigits (b := 10) (n := n) (by decide) (by decide) (hd ▸ List.mem_cons_self)
    have hne : ∀ c : Char, c.isDigit = false → first ≠ c := fun c hc h => by
      rw [h, hc] at hfirst
      cases hfirst
    refine ⟨.number behind (.natural n), behind, ?_, rfl⟩
    simp only [List.cons_append] at hscan ⊢
    simp [value, hscan, hfirst, Scan.leaf, hne 'n', hne 't', hne 'f', hne '"']

theorem readValue_string {s : String} (hf : 3 * (Json.string s).chars.length ≤ fuel) :
    ReadValue (value fuel left ⟨(Json.string s).chars ++ rest, offset⟩) (.string s) rest := by
  obtain ⟨fuel, rfl⟩ : ∃ f, fuel = f + 1 := ⟨fuel - 1, by simp [chars, stringChars] at hf; omega⟩
  obtain ⟨behind, hscan⟩ := scanString_stringChars s rest (offset + 1)
  refine ⟨.text behind s, behind, ?_, rfl⟩
  simp only [stringChars, List.cons_append, List.append_assoc, List.nil_append, List.tail_cons] at hscan
  simp [chars, stringChars, value, hscan, Scan.leaf]

/-! ## whole values -/

theorem ended_restItems (vs : List Json) (rest : List Char) : Ended (restItems vs ++ rest) := by
  cases vs <;> exact ended_cons (by decide) _

theorem ended_restMembers (vs : List (String × Json)) (rest : List Char) : Ended (restMembers vs ++ rest) := by
  cases vs <;> exact ended_cons (by decide) _

mutual

/-- A value that can be read is read from its text. -/
theorem readValue_chars : ∀ (v : Json) (fuel offset : Nat) {left : Nat} {rest : List Char}, v.Readable left →
    3 * v.chars.length ≤ fuel → Ended rest → ReadValue (value fuel left ⟨v.chars ++ rest, offset⟩) v rest
  | .null, fuel, offset, left, rest, _, hf, _ => readValue_null hf
  | .bool b, fuel, offset, left, rest, _, hf, _ => readValue_bool hf
  | .number n, fuel, offset, left, rest, hv, hf, he => by
    obtain ⟨n, hn, rfl⟩ := hv
    exact readValue_natural hn hf he
  | .string s, fuel, offset, left, rest, _, hf, _ => readValue_string hf
  | .array [], fuel, offset, left, rest, hv, hf, _ => by
    simp only [chars, List.length_cons, List.length_nil] at hf
    obtain ⟨fuel, rfl⟩ : ∃ f, fuel = f + 2 := ⟨fuel - 2, by omega⟩
    simp only [chars, List.cons_append, List.nil_append]
    refine ReadItems.array hv.1 ?_
    rw [skipBlank_cons (by decide)]
    exact readItems_nil true
  | .array (v :: vs), fuel, offset, left, rest, hv, hf, _ => by
    obtain ⟨first, more, hfirst, hopens⟩ := chars_opens hv.2.1
    simp only [chars, List.length_append, List.length_cons] at hf
    obtain ⟨fuel, rfl⟩ : ∃ f, fuel = f + 3 := ⟨fuel - 3, by omega⟩
    have hvalue := readValue_chars v fuel (offset + 1) hv.2.1 (by omega)
      (ended_restItems vs rest)
    simp only [chars, hfirst, List.cons_append, List.append_assoc] at hvalue ⊢
    refine ReadItems.array hv.1 ?_
    rw [skipBlank_cons hopens.1, items_first hopens]
    exact .cons hvalue fun _ => readItems_chars vs hv.2.2 (by omega)
  | .object [], fuel, offset, left, rest, hv, hf, _ => by
    simp only [chars, List.length_cons, List.length_nil] at hf
    obtain ⟨fuel, rfl⟩ : ∃ f, fuel = f + 2 := ⟨fuel - 2, by omega⟩
    simp only [chars, List.cons_append, List.nil_append]
    refine ReadMembers.object hv.1 ?_
    rw [skipBlank_cons (by decide)]
    exact readMembers_nil true
  | .object ((name, v) :: vs), fuel, offset, left, rest, hv, hf, _ => by
    obtain ⟨first, more, hfirst, hopens⟩ := chars_opens hv.2.1
    simp only [chars, List.length_append, List.length_cons] at hf
    obtain ⟨fuel, rfl⟩ : ∃ f, fuel = f + 3 := ⟨fuel - 3, by omega⟩
    have hvalue : ∀ offset, _ := fun offset => readValue_chars v fuel offset hv.2.1
      (by omega) (ended_restMembers vs rest)
    simp only [chars, hfirst, List.cons_append, List.append_assoc] at hvalue ⊢
    refine ReadMembers.object hv.1 ?_
    rw [skipBlank_stringChars, members_first]
    exact .cons hopens hvalue fun _ => readMembers_chars vs hv.2.2 (by omega)

theorem readItems_chars : ∀ (vs : List Json) {fuel left offset : Nat} {rest : List Char},
    ReadableItems left vs → 3 * (restItems vs).length ≤ fuel →
      ReadItems (items fuel left (Cursor.skipBlank ⟨restItems vs ++ rest, offset⟩) false) vs rest
  | [], fuel, left, offset, rest, _, hf => by
    simp only [restItems, List.length_cons, List.length_nil] at hf
    obtain ⟨fuel, rfl⟩ : ∃ f, fuel = f + 1 := ⟨fuel - 1, by omega⟩
    rw [restItems, List.cons_append, skipBlank_cons (by decide)]
    exact readItems_nil false
  | v :: vs, fuel, left, offset, rest, hv, hf => by
    obtain ⟨first, more, hfirst, hopens⟩ := chars_opens hv.1
    simp only [restItems, List.length_append, List.length_cons] at hf
    obtain ⟨fuel, rfl⟩ : ∃ f, fuel = f + 2 := ⟨fuel - 2, by omega⟩
    have hvalue := readValue_chars v fuel (offset + 1) hv.1 (by omega)
      (ended_restItems vs rest)
    simp only [restItems, hfirst, List.cons_append, List.append_assoc] at hvalue ⊢
    rw [skipBlank_cons (by decide), items_next hopens]
    exact .cons hvalue fun _ => readItems_chars vs hv.2 (by omega)

theorem readMembers_chars : ∀ (vs : List (String × Json)) {fuel left offset : Nat} {rest : List Char},
    ReadableMembers left vs → 3 * (restMembers vs).length ≤ fuel →
      ReadMembers (members fuel left (Cursor.skipBlank ⟨restMembers vs ++ rest, offset⟩) false) vs rest
  | [], fuel, left, offset, rest, _, hf => by
    simp only [restMembers, List.length_cons, List.length_nil] at hf
    obtain ⟨fuel, rfl⟩ : ∃ f, fuel = f + 1 := ⟨fuel - 1, by omega⟩
    rw [restMembers, List.cons_append, skipBlank_cons (by decide)]
    exact readMembers_nil false
  | (name, v) :: vs, fuel, left, offset, rest, hv, hf => by
    obtain ⟨first, more, hfirst, hopens⟩ := chars_opens hv.1
    simp only [restMembers, List.length_append, List.length_cons] at hf
    obtain ⟨fuel, rfl⟩ : ∃ f, fuel = f + 2 := ⟨fuel - 2, by omega⟩
    have hvalue : ∀ offset, _ := fun offset => readValue_chars v fuel offset hv.1
      (by omega) (ended_restMembers vs rest)
    simp only [restMembers, hfirst, List.cons_append, List.append_assoc] at hvalue ⊢
    rw [skipBlank_cons (by decide), members_next]
    exact .cons hopens hvalue fun _ => readMembers_chars vs hv.2 (by omega)

end

/-- A text that was written from a value is read as a tree that holds it, with nothing behind it. -/
theorem read_chars {v : Json} (h : v.Readable depthLimit) :
    ∃ t, Document.read v.chars = ⟨t, none⟩ ∧ t.plain = .ok v.plain := by
  obtain ⟨first, more, hfirst, hopens⟩ := chars_opens h
  obtain ⟨t, behind, hvalue, ht⟩ :=
    readValue_chars v (3 * v.chars.length + 3) 0 h (by omega) Ended.nil
  refine ⟨t, ?_, ht⟩
  rw [List.append_nil] at hvalue
  have hblank : Cursor.skipBlank ⟨v.chars, 0⟩ = ⟨v.chars, 0⟩ := hfirst ▸ skipBlank_cons hopens.1 more 0
  rw [Document.read, hblank, hvalue]
  rfl

/-! ## one line -/

/-- There is no control character in the text, so it is one line. -/
def Unbroken (text : List Char) : Prop := ∀ c ∈ text, 0x20 ≤ c.toNat

instance (text : List Char) : Decidable (Unbroken text) := List.decidableBAll _ text

theorem Unbroken.append {a b : List Char} (ha : Unbroken a) (hb : Unbroken b) : Unbroken (a ++ b) := fun c hc =>
  (List.mem_append.1 hc).elim (ha c) (hb c)

theorem Unbroken.cons {c : Char} {text : List Char} (h : Unbroken text) (hc : 0x20 ≤ c.toNat) :
    Unbroken (c :: text) := List.forall_mem_cons.2 ⟨hc, h⟩

theorem unbroken_escapeChar (c : Char) : Unbroken (escapeChar c) := by
  have hdigit : ∀ n < 16, 0x20 ≤ (hexDigit n).toNat := by decide
  unfold escapeChar
  split
  case h_8 =>
    split
    · have head : Unbroken ['\\', 'u', '0', '0'] := by decide
      have tail : Unbroken [hexDigit (c.toNat / 16), hexDigit (c.toNat % 16)] :=
        List.forall_mem_cons.2 ⟨hdigit _ (by omega), List.forall_mem_singleton.2 (hdigit _ (by omega))⟩
      exact head.append tail
    · exact List.forall_mem_singleton.2 (by omega)
  all_goals decide

theorem unbroken_stringChars (s : String) : Unbroken (stringChars s) := by
  have hescaped : Unbroken (s.toList.flatMap escapeChar) := fun c hc => by
    obtain ⟨d, -, hc⟩ := List.mem_flatMap.1 hc
    exact unbroken_escapeChar d c hc
  exact (hescaped.cons (by decide)).append (by decide)

mutual

theorem unbroken_chars : ∀ {left : Nat} (v : Json), v.Readable left → Unbroken v.chars
  | _, .null, _ => by decide
  | _, .bool true, _ => by decide
  | _, .bool false, _ => by decide
  | _, .number _, ⟨n, _, hn⟩ => by
    intro c hc
    rw [hn, chars_natural] at hc
    have hdigit := Char.isDigit_iff_toNat.1 (Nat.isDigit_of_mem_toDigits (by decide) (by decide) hc)
    exact Nat.le_trans (by decide) hdigit.1
  | _, .string s, _ => unbroken_stringChars s
  | _, .array [], _ => by decide
  | _, .array (v :: vs), h =>
    ((unbroken_chars v h.2.1).cons (by decide)).append (unbroken_restItems vs h.2.2)
  | _, .object [], _ => by decide
  | _, .object ((name, v) :: vs), h =>
    (((unbroken_stringChars name).cons (by decide)).append ((unbroken_chars v h.2.1).cons (by decide))).append
      (unbroken_restMembers vs h.2.2)

theorem unbroken_restItems : ∀ {left : Nat} (vs : List Json), ReadableItems left vs → Unbroken (restItems vs)
  | _, [], _ => by decide
  | _, v :: vs, h => ((unbroken_chars v h.1).cons (by decide)).append (unbroken_restItems vs h.2)

theorem unbroken_restMembers : ∀ {left : Nat} (vs : List (String × Json)), ReadableMembers left vs →
    Unbroken (restMembers vs)
  | _, [], _ => by decide
  | _, (name, v) :: vs, h =>
    (((unbroken_stringChars name).cons (by decide)).append ((unbroken_chars v h.1).cons (by decide))).append
      (unbroken_restMembers vs h.2)

end

end ProxyKeeper.Json

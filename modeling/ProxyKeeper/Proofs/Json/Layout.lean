/-
The texts of an object, whoever wrote them: blanks stand wherever they may, and
each string is spelled in any of the ways that JSON has for it. Such a text is
read as a tree that holds the members in their order (`ObjectText.read`).

The values are scalars. Each kind of text is a relation between what it says and
its characters, and for each there is one lemma about the part of the reader
that takes it in.
-/
import ProxyKeeper.Proofs.Json.RoundTrip

namespace ProxyKeeper.Json

open Data

/-! ## blanks -/

def Blank (text : List Char) : Prop := ∀ c ∈ text, Cursor.isBlank c = true

instance (text : List Char) : Decidable (Blank text) := List.decidableBAll _ text

theorem Blank.skip {blanks : List Char} (h : Blank blanks) (rest : List Char) (offset : Nat) :
    ∃ behind, Cursor.skipBlank ⟨blanks ++ rest, offset⟩ = Cursor.skipBlank ⟨rest, behind⟩ := by
  refine ⟨offset + blanks.length, ?_⟩
  simp only [Cursor.skipBlank, List.dropWhile_append_of_pos h, List.takeWhile_append_of_pos h, List.length_append,
    Nat.add_assoc]

/-- Blanks in front of a character that is none. -/
theorem Blank.skip_cons {blanks : List Char} (h : Blank blanks) {c : Char} (hc : Cursor.isBlank c = false)
    (rest : List Char) (offset : Nat) :
    ∃ behind, Cursor.skipBlank ⟨blanks ++ c :: rest, offset⟩ = ⟨c :: rest, behind⟩ := by
  obtain ⟨behind, hskip⟩ := h.skip (c :: rest) offset
  exact ⟨behind, hskip.trans (skipBlank_cons hc rest behind)⟩

theorem Blank.ended {blanks rest : List Char} (h : Blank blanks) (hrest : Ended rest) : Ended (blanks ++ rest) := by
  cases blanks with
  | nil => exact hrest
  | cons c more =>
    have hc := h c List.mem_cons_self
    refine ended_cons ?_ _
    simp only [Cursor.isBlank, Bool.or_eq_true, decide_eq_true_eq] at hc
    rcases hc with ((rfl | rfl) | rfl) | rfl <;> decide

/-! ## strings -/

/-- The text between the quotes spells these characters. -/
inductive Spells : List Char → List Char → Prop where
  | nil : Spells [] []
  | plain {c : Char} {text cs : List Char} (hquote : c ≠ '"') (hslash : c ≠ '\\') (hcontrol : ¬c.toNat < 0x20)
    (h : Spells text cs) : Spells (c :: text) (c :: cs)
  | letter {x y : Char} {text cs : List Char} (hx : escaped? x = some y) (h : Spells text cs) :
    Spells ('\\' :: x :: text) (y :: cs)
  | unit {a b c d : Char} {n : Nat} {text cs : List Char} (hunit : hexUnit? a b c d = some n)
    (hleading : isLeading n = false) (htrailing : isTrailing n = false) (h : Spells text cs) :
    Spells ('\\' :: 'u' :: a :: b :: c :: d :: text) (Char.ofNat n :: cs)
  | pair {a b c d a' b' c' d' : Char} {high low : Nat} {text cs : List Char} (hhigh : hexUnit? a b c d = some high)
    (hlow : hexUnit? a' b' c' d' = some low) (hleading : isLeading high = true) (htrailing : isTrailing low = true)
    (h : Spells text cs) :
    Spells ('\\' :: 'u' :: a :: b :: c :: d :: '\\' :: 'u' :: a' :: b' :: c' :: d' :: text)
      (Char.ofNat (joinSurrogates high low) :: cs)

theorem not_isTrailing_of_isLeading {n : Nat} (h : isLeading n = true) : isTrailing n = false := by
  simp only [isLeading, isTrailing, Bool.and_eq_true, Bool.and_eq_false_iff, decide_eq_true_eq,
    decide_eq_false_iff_not] at h ⊢
  omega

theorem Spells.scan {text cs : List Char} (h : Spells text cs) (rest : List Char) (offset : Nat) (done : List Char) :
    ∃ behind, scanString (text ++ '"' :: rest) offset none done none =
      ⟨none, .ok (.ofList (done.reverse ++ cs), ⟨rest, behind⟩)⟩ := by
  induction h generalizing offset done with
  | nil => exact ⟨offset + 1, by simp [scanString]⟩
  | @plain c text cs hquote hslash hcontrol _ ih =>
    obtain ⟨behind, ih⟩ := ih (offset + c.utf8Size) (c :: done)
    exact ⟨behind, by rw [List.cons_append, scanString_plain hquote hslash hcontrol, ih]; simp⟩
  | @letter x y text cs hx _ ih =>
    obtain ⟨behind, ih⟩ := ih (offset + 2) (y :: done)
    exact ⟨behind, by rw [List.cons_append, List.cons_append, scanString_letter hx, ih]; simp⟩
  | @unit a b c d n text cs hunit hleading htrailing _ ih =>
    obtain ⟨behind, ih⟩ := ih (offset + 6) (Char.ofNat n :: done)
    refine ⟨behind, ?_⟩
    simp only [List.cons_append]
    rw [scanString, hunit]
    simp only [hleading, htrailing, Bool.false_eq_true, if_false, ih]
    simp
  | @pair a b c d a' b' c' d' high low text cs hhigh hlow hleading htrailing _ ih =>
    obtain ⟨behind, ih⟩ := ih (offset + 12) (Char.ofNat (joinSurrogates high low) :: done)
    refine ⟨behind, ?_⟩
    simp only [List.cons_append]
    have hpaired : ∀ rest offset, unpaired ('\\' :: 'u' :: a' :: b' :: c' :: d' :: rest) offset = none := by
      intro rest offset
      rw [unpaired, hlow]
      simp [htrailing]
    rw [scanString, hhigh]
    simp only [hleading, not_isTrailing_of_isLeading hleading, Bool.false_eq_true, if_false, if_true, hpaired]
    rw [scanString, hlow]
    simp only [htrailing, if_true, ih]
    simp

/-! ## scalars -/

/-- The text of a scalar: a whole number has as many digits as it needs and fits into 64 bits. -/
inductive Spelling : Json → List Char → Prop where
  | null : Spelling .null "null".toList
  | bool (b : Bool) : Spelling (.bool b) (Json.bool b).chars
  | natural {n : Nat} (h : n < naturalBound) : Spelling (.number (.natural n)) (Nat.toDigits 10 n)
  | negative {n : Nat} (hpos : 0 < n) (h : n ≤ negativeBound) :
    Spelling (.number (.integer (-n))) ('-' :: Nat.toDigits 10 n)
  | string {s : String} {text : List Char} (h : Spells text s.toList) : Spelling (.string s) ('"' :: text ++ ['"'])

/-- A negative number in range is what its digits stand for. -/
theorem value_negative {n : Nat} (hpos : 0 < n) (hn : n ≤ negativeBound) :
    NumberText.value ⟨true, Nat.toDigits 10 n, [], none, false⟩ = .ok (.integer (-n)) := by
  have hvalue : Nat.ofDigitChars 10 (Nat.toDigits 10 n) 0 = n := Nat.ofDigitChars_ten_toDigits
  have hlt : n < naturalBound := Nat.lt_of_le_of_lt hn (by decide)
  have habsorb : absorb naturalBound (Nat.toDigits 10 n) 0 = (n, []) := by
    rw [absorb_eq (hvalue.symm ▸ hlt), hvalue]
  have hrange : ¬(n = 0 ∨ negativeBound < n) := by omega
  simp [NumberText.value, habsorb, hrange]

variable {fuel left offset : Nat} {rest text : List Char} {v : Json}

theorem Spelling.opens (h : Spelling v text) : ∃ first more, text = first :: more ∧ Opens first := by
  cases h with
  | null => exact ⟨_, _, rfl, by decide, by decide⟩
  | bool b => cases b <;> exact ⟨_, _, rfl, by decide, by decide⟩
  | @natural n h =>
    have hv : Readable 0 (.number (.natural n)) := ⟨n, h, rfl⟩
    rw [← chars_natural]
    exact chars_opens hv
  | negative | string => exact ⟨_, _, rfl, by decide, by decide⟩

theorem Spelling.read (h : Spelling v text) (fuel left offset : Nat) (hf : 3 * text.length ≤ fuel) (he : Ended rest) :
    ReadValue (value fuel left ⟨text ++ rest, offset⟩) v rest := by
  cases h with
  | null => exact readValue_null hf
  | bool b => exact readValue_bool hf
  | natural hn =>
    rw [← chars_natural] at hf ⊢
    exact readValue_natural hn hf he
  | @negative n hpos hn =>
    obtain ⟨fuel, rfl⟩ : ∃ f, fuel = f + 1 := ⟨fuel - 1, by simp only [List.length_cons] at hf; omega⟩
    obtain ⟨behind, hscan⟩ := scanNumber_digits (value_negative hpos hn) he offset
    refine ⟨.number behind (.integer (-n)), behind, ?_, rfl⟩
    simp only [if_true, List.cons_append, List.nil_append] at hscan ⊢
    simp [value, hscan, Scan.leaf]
  | @string s body hs =>
    obtain ⟨fuel, rfl⟩ : ∃ f, fuel = f + 1 := ⟨fuel - 1, by simp at hf; omega⟩
    obtain ⟨behind, hscan⟩ := hs.scan rest (offset + 1) []
    refine ⟨.text behind s, behind, ?_, rfl⟩
    simp only [List.reverse_nil, List.nil_append, String.ofList_toList] at hscan
    simp [value, hscan, Scan.leaf]

/-! ## members -/

/-- The text of one member, up to the comma or brace behind it. -/
inductive MemberText : String × Json → List Char → Prop where
  | of {name : String} {v : Json} {b₁ n b₂ b₃ t b₄ : List Char} (h₁ : Blank b₁) (hname : Spells n name.toList)
    (h₂ : Blank b₂) (h₃ : Blank b₃) (hvalue : Spelling v t) (h₄ : Blank b₄) :
    MemberText (name, v) (b₁ ++ '"' :: (n ++ '"' :: (b₂ ++ ':' :: (b₃ ++ (t ++ b₄)))))

/-- The text of one or more members and the brace behind them. -/
inductive MembersText : List (String × Json) → List Char → Prop where
  | last {m : String × Json} {text : List Char} (h : MemberText m text) : MembersText [m] (text ++ ['\x7d'])
  | next {m : String × Json} {ms : List (String × Json)} {text more : List Char} (h : MemberText m text)
    (hrest : MembersText ms more) : MembersText (m :: ms) (text ++ ',' :: more)

/-- The text of an object, with what stands around it. -/
inductive ObjectText : List (String × Json) → List Char → Prop where
  | empty {b₁ b₂ b₃ : List Char} (h₁ : Blank b₁) (h₂ : Blank b₂) (h₃ : Blank b₃) :
    ObjectText [] (b₁ ++ '\x7b' :: (b₂ ++ '\x7d' :: b₃))
  | of {ms : List (String × Json)} {b₁ text b₂ : List Char} (h₁ : Blank b₁) (h : MembersText ms text)
    (h₂ : Blank b₂) : ObjectText ms (b₁ ++ '\x7b' :: (text ++ b₂))

/-- A member is read in front of others. -/
theorem MemberText.read {m : String × Json} {ms : List (String × Json)} {c : Char} (h : MemberText m text)
    (hf : 3 * text.length ≤ fuel) (hc : c = ',' ∨ c = '\x7d') {more : List Char}
    (hms : ∀ offset, ReadMembers (members fuel left ⟨c :: more, offset⟩ false) ms rest) (offset : Nat) :
    ReadMembers (member (fuel + 1) left (Cursor.skipBlank ⟨text ++ c :: more, offset⟩)) (m :: ms) rest := by
  obtain @⟨name, v, b₁, n, b₂, b₃, t, b₄, h₁, hname, h₂, h₃, hvalue, h₄⟩ := h
  have hblank : Cursor.isBlank c = false := by rcases hc with rfl | rfl <;> decide
  have hended : Ended (b₄ ++ c :: more) := h₄.ended (by rcases hc with rfl | rfl <;> exact ended_cons (by decide) _)
  obtain ⟨first, others, ht, hopens⟩ := hvalue.opens
  simp only [List.length_append, List.length_cons] at hf
  simp only [List.append_assoc, List.cons_append]
  -- One piece after the other: the blanks, the name, the colon, the value, the blanks behind it.
  obtain ⟨quote, hquote⟩ := h₁.skip_cons (show Cursor.isBlank '"' = false by decide)
    (n ++ '"' :: (b₂ ++ ':' :: (b₃ ++ (t ++ (b₄ ++ c :: more))))) offset
  obtain ⟨closing, hscan⟩ := hname.scan (b₂ ++ ':' :: (b₃ ++ (t ++ (b₄ ++ c :: more)))) (quote + 1) []
  obtain ⟨colon, hcolon⟩ := h₂.skip_cons (show Cursor.isBlank ':' = false by decide)
    (b₃ ++ (t ++ (b₄ ++ c :: more))) closing
  obtain ⟨start, hstart⟩ : ∃ start, Cursor.skipBlank ⟨b₃ ++ (t ++ (b₄ ++ c :: more)), colon + 1⟩ =
      ⟨t ++ (b₄ ++ c :: more), start⟩ := by
    rw [ht]
    exact h₃.skip_cons hopens.1 _ _
  obtain ⟨tree, stop, hread, hplain⟩ := hvalue.read fuel left start (by omega) hended
  obtain ⟨behind, hbehind⟩ := h₄.skip_cons hblank more stop
  obtain ⟨found, mark, last, hmembers, hfound⟩ := hms behind
  rw [hquote]
  simp only [List.reverse_nil, List.nil_append, String.ofList_toList] at hscan
  refine ⟨(colon, none, name, tree) :: found, mark, last, ?_, ?_⟩
  · simp [member, hscan, hcolon, Cursor.ahead, hstart, hread, hbehind, hmembers]
  · simp only [Datum.plainMembers, hplain, hfound]
    rfl

theorem MemberText.quote {m : String × Json} (h : MemberText m text) :
    ∃ blanks more, Blank blanks ∧ text = blanks ++ '"' :: more := by
  cases h with
  | of h₁ => exact ⟨_, _, h₁, rfl⟩

theorem MembersText.quote {ms : List (String × Json)} (h : MembersText ms text) :
    ∃ blanks more, Blank blanks ∧ text = blanks ++ '"' :: more := by
  cases h with
  | last h | next h =>
    obtain ⟨blanks, more, hb, rfl⟩ := h.quote
    exact ⟨blanks, _, hb, List.append_assoc _ _ _⟩

/-- In front of members the reader turns to the first of them. -/
theorem MembersText.first {ms : List (String × Json)} (h : MembersText ms text) (rest : List Char) (offset : Nat) :
    members (fuel + 1) left (Cursor.skipBlank ⟨text ++ rest, offset⟩) true =
      member fuel left (Cursor.skipBlank ⟨text ++ rest, offset⟩) := by
  obtain ⟨blanks, more, hb, rfl⟩ := h.quote
  obtain ⟨behind, hskip⟩ := hb.skip_cons (show Cursor.isBlank '"' = false by decide) (more ++ rest) offset
  rw [List.append_assoc, List.cons_append, hskip]
  simp [members]

theorem MembersText.next_comma {ms : List (String × Json)} (h : MembersText ms text) (rest : List Char) (offset : Nat) :
    members (fuel + 1) left ⟨',' :: (text ++ rest), offset⟩ false =
      member fuel left (Cursor.skipBlank ⟨text ++ rest, offset + 1⟩) := by
  obtain ⟨blanks, more, hb, rfl⟩ := h.quote
  obtain ⟨behind, hskip⟩ := hb.skip_cons (show Cursor.isBlank '"' = false by decide) (more ++ rest) (offset + 1)
  rw [List.append_assoc, List.cons_append, hskip]
  simp [members, Cursor.ahead, hskip]

theorem MembersText.read {ms : List (String × Json)} (h : MembersText ms text) (hf : 3 * text.length ≤ fuel)
    (rest : List Char) (offset : Nat) :
    ReadMembers (member fuel left (Cursor.skipBlank ⟨text ++ rest, offset⟩)) ms rest := by
  induction h generalizing fuel offset with
  | @last m text h =>
    simp only [List.length_append, List.length_cons, List.length_nil] at hf
    obtain ⟨fuel, rfl⟩ : ∃ f, fuel = f + 2 := ⟨fuel - 2, by omega⟩
    rw [List.append_assoc]
    exact h.read (by omega) (.inr rfl) (fun _ => readMembers_nil false) offset
  | @next m ms text more h hrest ih =>
    simp only [List.length_append, List.length_cons] at hf
    obtain ⟨fuel, rfl⟩ : ∃ f, fuel = f + 2 := ⟨fuel - 2, by omega⟩
    rw [List.append_assoc, List.cons_append]
    refine h.read (by omega) (.inl rfl) (fun offset => ?_) offset
    rw [hrest.next_comma]
    exact ih (by omega) (offset + 1)

/-- **The text of an object is read as a tree that holds its members**, with nothing behind it. -/
theorem ObjectText.read {ms : List (String × Json)} (h : ObjectText ms text) :
    ∃ t, Document.read text = ⟨t, none⟩ ∧ t.plain = .ok (Json.object ms).plain := by
  have hbrace : Cursor.isBlank '\x7b' = false := by decide
  have hdepth : 1 < depthLimit := by decide
  -- What remains behind the closing brace is blank.
  have whole : ∀ {blanks inner behind : List Char}, Blank blanks → Blank behind → text = blanks ++ '\x7b' :: inner →
      (∀ offset, ReadMembers (members (3 * text.length + 2) (depthLimit - 1) (Cursor.skipBlank ⟨inner, offset⟩) true) ms
        behind) → ∃ t, Document.read text = ⟨t, none⟩ ∧ t.plain = .ok (Json.object ms).plain := by
    intro blanks inner behind hblanks hbehind htext hmembers
    obtain ⟨start, hstart⟩ := hblanks.skip_cons hbrace inner 0
    obtain ⟨t, stop, hvalue, hplain⟩ := ReadMembers.object hdepth (hmembers (start + 1))
    refine ⟨t, ?_, hplain⟩
    rw [Document.read, show Cursor.skipBlank ⟨text, 0⟩ = ⟨'\x7b' :: inner, start⟩ from htext ▸ hstart, hvalue]
    obtain ⟨last, hlast⟩ := hbehind.skip [] stop
    rw [List.append_nil] at hlast
    simp only [hlast]
    rfl
  cases h with
  | empty h₁ h₂ h₃ =>
    refine whole h₁ h₃ rfl fun offset => ?_
    obtain ⟨behind, hskip⟩ := h₂.skip_cons (show Cursor.isBlank '\x7d' = false by decide) _ offset
    rw [hskip]
    exact readMembers_nil true
  | of h₁ h h₂ =>
    refine whole h₁ h₂ rfl fun offset => ?_
    rw [h.first]
    exact h.read (by simp only [List.length_append, List.length_cons]; omega) _ offset

/-! ## what is written is such a text -/

theorem Spells.escapeChar (c : Char) {text cs : List Char} (h : Spells text cs) :
    Spells (escapeChar c ++ text) (c :: cs) := by
  unfold Json.escapeChar
  split
  case h_8 hquote hslash _ _ _ _ _ =>
    split
    · rename_i hc
      have hunit := hexUnit?_hexDigits (show c.toNat < 256 by omega)
      have hleading : isLeading c.toNat = false := by rw [isLeading, decide_eq_false (by omega), Bool.false_and]
      have htrailing : isTrailing c.toNat = false := by rw [isTrailing, decide_eq_false (by omega), Bool.false_and]
      have hspells := Spells.unit hunit hleading htrailing h
      rwa [Char.ofNat_toNat] at hspells
    · rename_i hc
      exact .plain hquote hslash hc h
  all_goals exact .letter rfl h

theorem spells_escaped (cs : List Char) : Spells (cs.flatMap escapeChar) cs := by
  induction cs with
  | nil => exact .nil
  | cons c cs ih =>
    rw [List.flatMap_cons]
    exact ih.escapeChar c

theorem spelling_string (s : String) : Spelling (.string s) (Json.string s).chars := .string (spells_escaped _)

theorem memberText_chars (name : String) (h : Spelling v v.chars) :
    MemberText (name, v) (stringChars name ++ ':' :: v.chars) := by
  have hnil : Blank [] := fun _ hc => absurd hc List.not_mem_nil
  have hmember := MemberText.of hnil (spells_escaped name.toList) hnil hnil h hnil
  simpa [stringChars] using hmember

theorem membersText_chars (name : String) {ms : List (String × Json)} (h : Spelling v v.chars)
    (hrest : ∀ m ∈ ms, Spelling m.2 m.2.chars) :
    MembersText ((name, v) :: ms) (stringChars name ++ ':' :: v.chars ++ restMembers ms) := by
  induction ms generalizing name v with
  | nil => exact .last (memberText_chars name h)
  | cons m ms ih =>
    obtain ⟨hm, hms⟩ := List.forall_mem_cons.1 hrest
    exact .next (memberText_chars name h) (ih m.1 hm hms)

theorem objectText_chars {ms : List (String × Json)} (h : ∀ m ∈ ms, Spelling m.2 m.2.chars) :
    ObjectText ms (Json.object ms).chars := by
  have hnil : Blank [] := fun _ hc => absurd hc List.not_mem_nil
  cases ms with
  | nil => exact .empty hnil hnil hnil
  | cons m ms =>
    obtain ⟨hm, hms⟩ := List.forall_mem_cons.1 h
    have htext := ObjectText.of hnil (membersText_chars m.1 hm hms) hnil
    rw [List.append_nil] at htext
    exact htext

end ProxyKeeper.Json

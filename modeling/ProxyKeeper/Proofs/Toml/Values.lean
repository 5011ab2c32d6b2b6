/-
Values that stand in a line of their own: texts, flags, natural numbers and
empty arrays (`Leaf`). Each is read back in front of a line end
(`Leaf.readValue`), and so is an entry of such a value under a name that needs
no quotes (`readPair_line`).

A number is one word of digits. `readWord` asks first whether a word is a date
or a time; digits alone are neither, since both have a mark between their
numbers (`isMoment_digits`).
-/
import ProxyKeeper.Proofs.Json.RoundTrip
import ProxyKeeper.Proofs.Toml.Strings

namespace ProxyKeeper.Toml

/-! ## words of digits -/

/-- A text of digits only. -/
def Digits (s : List Char) : Prop := ∀ c ∈ s, c.isDigit = true

variable {s text rest word : List Char} {c : Char} {n : Nat}

theorem Digits.not_mem (h : Digits s) (hc : c.isDigit = false) : c ∉ s := fun hm =>
  absurd (h c hm) (Bool.eq_false_iff.1 hc)

theorem Digits.drop (h : Digits s) (k : Nat) : Digits (s.drop k) := fun c hc => h c (List.mem_of_mem_drop hc)

theorem digits_toDigits (n : Nat) : Digits (Nat.toDigits 10 n) := fun _ hc =>
  Nat.isDigit_of_mem_toDigits (by decide) (by decide) hc

/-- There is no mark among digits. -/
theorem Digits.readMark (h : Digits s) (hc : c.isDigit = false) : readMark c s = none := by
  cases s with
  | nil => rfl
  | cons d s =>
    rw [Toml.readMark, if_neg]
    rintro rfl
    exact h.not_mem hc List.mem_cons_self

theorem eq_drop_of_readCount {k : Nat} {p : Nat × List Char} (h : readCount k s = some p) : p.2 = s.drop k := by
  rw [readCount] at h
  split at h
  · obtain ⟨m, -, hm⟩ := Option.bind_eq_some_iff.1 h
    cases hm
    rfl
  · cases h

theorem Digits.passDate (h : Digits s) : passDate s = none := by
  rw [Toml.passDate]
  cases hyear : readCount 4 s with
  | none => rfl
  | some p =>
    have hmark : Toml.readMark '-' p.2 = none := eq_drop_of_readCount hyear ▸ (h.drop 4).readMark (by decide)
    simp [hmark]

theorem Digits.passTime (h : Digits s) : passTime s = none := by
  rw [Toml.passTime]
  cases hhour : readTwo 0 23 s with
  | none => rfl
  | some p =>
    have hcount : readCount 2 s = some p := (Option.filter_eq_some_iff.1 hhour).1
    have hmark : Toml.readMark ':' p.2 = none := eq_drop_of_readCount hcount ▸ (h.drop 2).readMark (by decide)
    simp [hmark]

/-- Digits alone are no date and no time. -/
theorem Digits.isMoment (h : Digits s) : isMoment s = false := by
  rw [Toml.isMoment, h.passDate, h.passTime]
  rfl

theorem Digits.joined (h : Digits s) (hs : s ≠ []) : joined Char.isDigit s = some s := by
  induction s with
  | nil => exact absurd rfl hs
  | cons c s ih =>
    have hc : c.isDigit = true := h c List.mem_cons_self
    cases s with
    | nil => rw [Toml.joined, if_pos hc]
    | cons d s =>
      have hd : d ≠ '_' := fun hd => h.not_mem (c := '_') (by decide) (by simp [hd])
      have hrest := ih (fun x hx => h x (List.mem_cons_of_mem c hx)) (List.cons_ne_nil d s)
      rw [Toml.joined, if_pos hc, hrest]
      · rfl
      · simp
      · exact fun _ he => hd (List.cons.inj he).1

theorem digitValue?_of_isDigit (h : c.isDigit = true) :
    c.toNat - '0'.toNat < 10 ∧ Text.digitValue? c = some (c.toNat - '0'.toNat) := by
  have hc := Char.isDigit_iff_toNat.1 h
  have hzero : '0'.toNat = 48 := rfl
  have hnine : '9'.toNat = 57 := rfl
  exact ⟨by omega, if_pos ⟨hc.1, hc.2⟩⟩

/-- A text is folded to its number by any step that puts one digit behind those before it. -/
theorem Digits.foldlM {step : Nat → Char → Option Nat} (h : Digits s)
    (hstep : ∀ m c, c.isDigit = true → step m c = some (10 * m + (c.toNat - '0'.toNat))) (m : Nat) :
    s.foldlM step m = some (Nat.ofDigitChars 10 s m) := by
  induction s generalizing m with
  | nil => rfl
  | cons c s ih =>
    obtain ⟨hc, hs⟩ := List.forall_mem_cons.1 h
    rw [List.foldlM_cons, hstep m c hc, Nat.ofDigitChars_cons]
    exact ih hs _

theorem Digits.readDigits (h : Digits s) (hs : s ≠ []) : Text.readDigits 10 s = some (Nat.ofDigitChars 10 s 0) := by
  rw [Text.readDigits, if_neg (by simpa using hs)]
  refine h.foldlM (fun m c hc => ?_) 0
  obtain ⟨hlt, hvalue⟩ := digitValue?_of_isDigit hc
  simp only [hvalue, if_pos hlt, Nat.mul_comm]

/-- The digits of a number in range are read as the number. -/
theorem readInteger_toDigits (h : isInteger n = true) : readInteger (Nat.toDigits 10 n) = some (n : Int) := by
  have hd := digits_toDigits n
  have hne : Nat.toDigits 10 n ≠ [] := Nat.toDigits_ne_nil
  have hbase : ∀ x : Char, x.isDigit = false → ∀ more, Nat.toDigits 10 n ≠ '0' :: x :: more := fun x hx more he =>
    hd.not_mem hx (by simp [he])
  have hsign : cutSign (Nat.toDigits 10 n) = (false, Nat.toDigits 10 n) := by
    rw [cutSign]
    · exact fun more he => hd.not_mem (c := '-') (by decide) (by simp [he])
    · exact fun more he => hd.not_mem (c := '+') (by decide) (by simp [he])
  have hwhole : wholeDigits (Nat.toDigits 10 n) = some (Nat.toDigits 10 n) := by
    rw [wholeDigits, hd.joined hne, Option.filter_some, if_pos]
    cases hdigits : Nat.toDigits 10 n with
    | nil => exact absurd hdigits hne
    | cons first more =>
      by_cases hzero : first = '0'
      · subst first
        rw [Json.eq_nil_of_toDigits_zero hdigits]
        rfl
      · simp [hzero]
  have hvalue : Text.readDigits 10 (Nat.toDigits 10 n) = some n := by
    rw [hd.readDigits hne, Nat.ofDigitChars_ten_toDigits]
  have hchecked : checked n = some (n : Int) := if_pos h
  rw [readInteger]
  · rw [hsign]
    refine Option.bind_eq_some_iff.2 ⟨_, hwhole, Option.bind_eq_some_iff.2 ⟨n, hvalue, ?_⟩⟩
    rw [if_neg Bool.false_ne_true]
    exact hchecked
  all_goals exact hbase _ (by decide)

theorem readWord_toDigits (h : isInteger n = true) : readWord (Nat.toDigits 10 n) = some (.integer n) := by
  have hd := digits_toDigits n
  have htrue : Nat.toDigits 10 n ≠ ['t', 'r', 'u', 'e'] := fun he =>
    hd.not_mem (c := 't') (by decide) (by simp [he])
  have hfalse : Nat.toDigits 10 n ≠ ['f', 'a', 'l', 's', 'e'] := fun he =>
    hd.not_mem (c := 'f') (by decide) (by simp [he])
  rw [readWord, if_neg htrue, if_neg hfalse, hd.isMoment, readInteger_toDigits h]
  rfl

/-! ## values in a line of their own -/

/-- A word is cut off in front of a line end. -/
theorem cutWord_newline (h : ∀ c ∈ word, isWordChar c = true) (rest : List Char) :
    cutWord (word ++ '\n' :: rest) = (word, '\n' :: rest) := by
  have hend : isWordChar '\n' = false := by decide
  simp [cutWord, List.takeWhile_append_of_pos h, List.dropWhile_append_of_pos h, hend]

theorem isWordChar_of_isDigit (h : c.isDigit = true) : isWordChar c = true := by
  simp [isWordChar, Char.isAlphanum, h]

/-- The values that stand in a line of their own. -/
inductive Leaf : Toml → Prop where
  | text (s : String) : Leaf (.text s)
  | flag (b : Bool) : Leaf (.flag b)
  | natural (n : Nat) (h : isInteger n = true) : Leaf (.integer n)
  | nothing : Leaf (.array [])

theorem valueChars_natural (n : Nat) : valueChars (.integer n) = Nat.toDigits 10 n := by
  have htext : toString (n : Int) = toString n := rfl
  rw [valueChars, htext, Nat.toString_eq_ofList_toDigits, String.toList_ofList]

theorem stringChars_opens (s : List Char) :
    ∃ first more, stringChars s = first :: more ∧ (first = '"' ∨ first = '\'') := by
  rw [stringChars]
  cases quotingOf s
  · exact ⟨_, _, rfl, .inl rfl⟩
  · exact ⟨_, _, rfl, .inr rfl⟩
  · exact ⟨_, _, rfl, .inl rfl⟩
  · exact ⟨_, _, rfl, .inr rfl⟩

variable {v : Toml}

/-- A value begins with a character that is no blank. -/
theorem Leaf.opens (h : Leaf v) : ∃ first more, valueChars v = first :: more ∧ isBlank first = false := by
  cases h with
  | text s =>
    obtain ⟨first, more, hs, hfirst⟩ := stringChars_opens s.toList
    refine ⟨first, more, hs, ?_⟩
    rcases hfirst with rfl | rfl <;> decide
  | flag b => cases b <;> exact ⟨_, _, rfl, by decide⟩
  | natural n =>
    rw [valueChars_natural]
    cases hd : Nat.toDigits 10 n with
    | nil => exact absurd hd Nat.toDigits_ne_nil
    | cons first more =>
      refine ⟨first, more, rfl, ?_⟩
      have hfirst : first.isDigit = true := digits_toDigits n first (hd ▸ List.mem_cons_self)
      rw [Bool.eq_false_iff]
      intro hb
      simp only [isBlank, Bool.or_eq_true, decide_eq_true_eq] at hb
      rcases hb with rfl | rfl <;> cases hfirst
  | nothing => exact ⟨_, _, rfl, by decide⟩

theorem Leaf.return_not_mem (h : Leaf v) : '\r' ∉ valueChars v := by
  cases h with
  | text s => exact return_not_mem_stringChars s.toList
  | flag b => cases b <;> decide
  | natural n =>
    rw [valueChars_natural]
    exact (digits_toDigits n).not_mem (by decide)
  | nothing => decide

/-- A word that is no string and no bracket is read by its meaning. -/
theorem readValue_word (word : List Char) (depth : Nat) (hword : ∀ c ∈ word, isWordChar c = true) (hne : word ≠ [])
    (hv : readWord word = some v) (rest : List Char) :
    readValue (depth + 1) (word ++ '\n' :: rest) = some (v, '\n' :: rest) := by
  cases word with
  | nil => exact absurd rfl hne
  | cons first more =>
    have hcut := cutWord_newline hword rest
    have hfirst := hword first List.mem_cons_self
    have hbracket : ¬(first = '[' ∨ first = '\x7b') := by
      rintro (rfl | rfl) <;> revert hfirst <;> decide
    have hquote : ¬(first = '"' ∨ first = '\'') := by
      rintro (rfl | rfl) <;> revert hfirst <;> decide
    rw [List.cons_append] at hcut ⊢
    rw [readValue, if_neg hbracket, if_neg hquote, hcut]
    simp only [hv, Option.map_some]

theorem unquoted_newline (rest : List Char) : Unquoted ('\n' :: rest) := fun c hc => by
  cases hc
  decide

/-- A value is read back in front of a line end. -/
theorem Leaf.readValue (h : Leaf v) (depth : Nat) (rest : List Char) :
    readValue (depth + 1) (valueChars v ++ '\n' :: rest) = some (v, '\n' :: rest) := by
  cases h with
  | text s =>
    obtain ⟨first, more, hs, hfirst⟩ := stringChars_opens s.toList
    have hread := readString_stringChars s.toList (unquoted_newline rest)
    have hbracket : ¬(first = '[' ∨ first = '\x7b') := by rcases hfirst with rfl | rfl <;> decide
    rw [valueChars, hs, List.cons_append] at *
    rw [Toml.readValue, if_neg hbracket, if_pos hfirst, hread, String.ofList_toList]
    rfl
  | flag b =>
    cases b
    · exact readValue_word ['f', 'a', 'l', 's', 'e'] depth (List.all_eq_true.1 rfl) (by decide) rfl rest
    · exact readValue_word ['t', 'r', 'u', 'e'] depth (List.all_eq_true.1 rfl) (by decide) rfl rest
  | natural n hn =>
    rw [valueChars_natural]
    exact readValue_word _ depth (fun c hc => isWordChar_of_isDigit (digits_toDigits n c hc)) Nat.toDigits_ne_nil
      (readWord_toDigits hn) rest
  | nothing => rfl

/-! ## entries of one line -/

/-- A name that needs no quotes. -/
def Bare (name : String) : Prop := name.toList ≠ [] ∧ ∀ c ∈ name.toList, isBareChar c = true

instance (name : String) : Decidable (Bare name) :=
  decidable_of_iff (name.toList ≠ [] ∧ name.toList.all isBareChar = true) (by rw [Bare, List.all_eq_true])

variable {name : String}

theorem Bare.keyChars (h : Bare name) : keyChars name = name.toList := by
  have hall : name.toList.all isBareChar = true := List.all_eq_true.2 h.2
  simp [Toml.keyChars, hall, h.1]

/-- A character of a bare name is none that means something in a line. -/
theorem ne_of_isBareChar {d : Char} (hc : isBareChar c = true) (hd : isBareChar d = false) : c ≠ d := by
  rintro rfl
  exact absurd hc (Bool.eq_false_iff.1 hd)

theorem isBlank_of_isBareChar (h : isBareChar c = true) : isBlank c = false := by
  have hspace : c ≠ ' ' := ne_of_isBareChar h (by decide)
  have htab : c ≠ '\t' := ne_of_isBareChar h (by decide)
  simp [isBlank, hspace, htab]

theorem Bare.opens (h : Bare name) : ∃ first more, name.toList = first :: more ∧ isBareChar first = true := by
  obtain ⟨hne, hall⟩ := h
  cases hs : name.toList with
  | nil => exact absurd hs hne
  | cons first more => exact ⟨first, more, rfl, hall first (hs ▸ List.mem_cons_self)⟩

/-- A key of one bare name is read up to what follows it and its blanks. -/
theorem readKey_bare (h : Bare name) {tail : List Char} (htail : ∀ c ∈ tail.head?, isBareChar c = false)
    (hdot : (dropBlanks tail).head? ≠ some '.') :
    readKey (name.toList ++ tail) = some (([], name), dropBlanks tail) := by
  obtain ⟨first, more, hname, hfirst⟩ := h.opens
  have hblank := isBlank_of_isBareChar hfirst
  have hdouble : first ≠ '"' := ne_of_isBareChar hfirst (by decide)
  have hsingle : first ≠ '\'' := ne_of_isBareChar hfirst (by decide)
  have htake : tail.takeWhile isBareChar = [] := by
    cases tail with
    | nil => rfl
    | cons c tail => simp [htail c rfl]
  have hdrop : tail.dropWhile isBareChar = tail := by
    cases tail with
    | nil => rfl
    | cons c tail => simp [htail c rfl]
  have hpart : readKeyPart (name.toList ++ tail) = some (name, tail) := by
    have hhead : (name.toList ++ tail).head? = some first := by rw [hname]; rfl
    simp [readKeyPart, hhead, hdouble, hsingle, List.takeWhile_append_of_pos h.2, List.dropWhile_append_of_pos h.2,
      htake, hdrop, h.1]
  have hskip : dropBlanks (name.toList ++ tail) = name.toList ++ tail := by
    rw [hname]
    simp [dropBlanks, hblank]
  have hparts : readKeyParts depthLimit (name.toList ++ tail) = some ([name], dropBlanks tail) := by
    rw [depthLimit, readKeyParts, hskip, hpart]
    simp only [Option.bind_eq_bind, Option.bind_some]
    split
    · rename_i rest hrest
      rw [hrest] at hdot
      exact absurd rfl hdot
    · rfl
  rw [readKey, hparts]
  rfl

/-- An entry of one line is read back. -/
theorem readPair_line (hname : Bare name) (hv : Leaf v) (rest : List Char) :
    readPair (Toml.readValue depthLimit) (keyChars name ++ " = ".toList ++ valueChars v ++ '\n' :: rest) =
      some (([], name, v), '\n' :: rest) := by
  obtain ⟨first, more, hopens, hfirst⟩ := hv.opens
  have htext : keyChars name ++ " = ".toList ++ valueChars v ++ '\n' :: rest =
      name.toList ++ ' ' :: '=' :: ' ' :: (valueChars v ++ '\n' :: rest) := by
    rw [hname.keyChars]
    simp
  have hkey : readKey (name.toList ++ ' ' :: '=' :: ' ' :: (valueChars v ++ '\n' :: rest)) =
      some (([], name), '=' :: ' ' :: (valueChars v ++ '\n' :: rest)) :=
    readKey_bare hname (fun c hc => by cases hc; decide) (fun h => by cases h)
  have hskip : dropBlanks (' ' :: (valueChars v ++ '\n' :: rest)) = valueChars v ++ '\n' :: rest := by
    have hspace : isBlank ' ' = true := by decide
    rw [hopens]
    simp [dropBlanks, hspace, hfirst]
  have hvalue : Toml.readValue depthLimit (valueChars v ++ '\n' :: rest) = some (v, '\n' :: rest) :=
    hv.readValue (depthLimit - 1) rest
  rw [htext, readPair, hkey]
  simp only [Option.bind_eq_bind, Option.bind_some, hskip, hvalue]
  rfl

end ProxyKeeper.Toml

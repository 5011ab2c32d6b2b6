/-
Strings of TOML documents: whatever a string is made of, it is read back from
the form that was chosen for it (`readString_stringChars`).

Each form can hold some texts (`Quoting.Holds`), and the one that is chosen
holds the text it is chosen for. A basic string holds every text, since what
is special in it is escaped and each escape stands for its character
(`unescape_escapeChar`). In three quotes at most two quotes stand in a row, and
those that stand in front of the closing ones still belong to the text
(`Closing`); so both forms of several lines are read run by run.
-/
import ProxyKeeper.Toml.Writer

namespace ProxyKeeper.Toml

/-- The text does not go on with a quote. -/
def Unquoted (rest : List Char) : Prop := ∀ c ∈ rest.head?, c ≠ '"' ∧ c ≠ '\''

/-! ## escapes -/

theorem isPlain_of_not_isControl {c : Char} (h : isControl c = false) : isPlain c = true := by
  simp [isPlain, h]

theorem digitValue?_hexDigitUpper {n : Nat} (h : n < 16) : Text.digitValue? (hexDigitUpper n) = some n := by
  have all : ∀ n < 16, Text.digitValue? (hexDigitUpper n) = some n := by decide
  exact all n h

/-- A digit of an escape is none of the characters that mean something in a string. -/
theorem hexDigitUpper_plain {n : Nat} (h : n < 16) :
    isPlain (hexDigitUpper n) = true ∧ hexDigitUpper n ≠ '\\' ∧ hexDigitUpper n ≠ '"' ∧ hexDigitUpper n ≠ '\r' := by
  have all : ∀ n < 16, isPlain (hexDigitUpper n) = true ∧ hexDigitUpper n ≠ '\\' ∧ hexDigitUpper n ≠ '"' ∧
      hexDigitUpper n ≠ '\r' := by decide
  exact all n h

/-- How a character is written in a string with escapes: as it stands, behind a backslash, or by its number. -/
inductive Escaping (c : Char) : List Char → Prop where
  | plain (hquote : c ≠ '"') (hslash : c ≠ '\\') (hcontrol : isControl c = false) : Escaping c [c]
  | letter (x : Char) (hx : escaped? x = some c) (hr : x ≠ '\r') : Escaping c ['\\', x]
  | number (h : c.toNat < 256) :
    Escaping c ['\\', 'u', '0', '0', hexDigitUpper (c.toNat / 16), hexDigitUpper (c.toNat % 16)]

theorem escaping_escapeChar (c : Char) : Escaping c (escapeChar c) := by
  unfold escapeChar
  split
  case h_8 hquote hslash _ _ _ _ _ =>
    split
    · rename_i hc
      simp only [isControl, Bool.or_eq_true, decide_eq_true_eq] at hc
      exact .number (by omega)
    · rename_i hc
      exact .plain hquote hslash (Bool.eq_false_iff.2 hc)
  all_goals exact .letter _ rfl (by decide)

variable {c : Char} {chars text rest s : List Char} {multiline : Bool}

/-- What stands for a character begins neither with a quote nor with a line end. -/
theorem Escaping.opens (h : Escaping c chars) : ∃ d more, chars = d :: more ∧ d ≠ '"' ∧ d ≠ '\n' := by
  cases h with
  | plain hquote _ hcontrol =>
    refine ⟨c, [], rfl, hquote, ?_⟩
    rintro rfl
    revert hcontrol
    decide
  | letter | number => exact ⟨_, _, rfl, by decide, by decide⟩

theorem Escaping.return_not_mem (h : Escaping c chars) : '\r' ∉ chars := by
  cases h with
  | plain _ _ hcontrol =>
    intro hc
    rw [← List.mem_singleton.1 hc] at hcontrol
    revert hcontrol
    decide
  | letter x _ hr => simpa using hr.symm
  | number hc =>
    have hhigh := (hexDigitUpper_plain (show c.toNat / 16 < 16 by omega)).2.2.2.symm
    have hlow := (hexDigitUpper_plain (Nat.mod_lt c.toNat (show 0 < 16 by decide))).2.2.2.symm
    simp [hhigh, hlow]

/-- An escape stands for its character. -/
theorem unescape_escaping (h : Escaping c chars) (text : List Char) :
    unescape multiline .nothing (chars ++ text) = (unescape multiline .nothing text).map (c :: ·) := by
  cases h with
  | plain _ hslash => simp [unescape, hslash]
  | letter x hx => simp [unescape, hx]
  | number hc =>
    have hzero : Text.digitValue? '0' = some 0 := by decide
    have hhigh := digitValue?_hexDigitUpper (show c.toNat / 16 < 16 by omega)
    have hlow := digitValue?_hexDigitUpper (Nat.mod_lt c.toNat (show 0 < 16 by decide))
    have hsum : 16 * (c.toNat / 16) + c.toNat % 16 = c.toNat := Nat.div_add_mod ..
    have hchar : charOf? c.toNat = some c := by
      have hvalid : c.toNat.isValidChar := c.valid
      rw [charOf?, if_pos hvalid, Char.ofNat_toNat]
    simp [unescape, escaped?, hzero, hhigh, hlow, hsum, hchar]

theorem unescape_flatMap (s : List Char) : unescape multiline .nothing (s.flatMap escapeChar) = some s := by
  induction s with
  | nil => rfl
  | cons c s ih => rw [List.flatMap_cons, unescape_escaping (escaping_escapeChar c), ih, Option.map_some]

/-! ## one line -/

/-- A reading of so many characters more. -/
def pushAll (chars : List Char) (r : Option (List Char × List Char)) : Option (List Char × List Char) :=
  r.map fun (body, rest) => (chars ++ body, rest)

/-- How the end of a string with escapes is looked for: past a plain character, and past a backslash together with
what stands behind it. -/
structure Escapes (find : List Char → Option (List Char × List Char)) : Prop where
  plain : ∀ {c}, c ≠ '"' → c ≠ '\\' → isPlain c = true → ∀ text, find (c :: text) = push c (find text)
  slash : ∀ c text, find ('\\' :: c :: text) = push '\\' (push c (find text))

/-- What stands for a character is passed as a whole. -/
theorem Escapes.reads {find : List Char → Option (List Char × List Char)} (hf : Escapes find) (h : Escaping c chars)
    (text : List Char) : find (chars ++ text) = pushAll chars (find text) := by
  cases h with
  | plain hquote hslash hcontrol => exact hf.plain hquote hslash (isPlain_of_not_isControl hcontrol) text
  | letter x =>
    refine (hf.slash x text).trans ?_
    cases find text <;> rfl
  | number hc =>
    obtain ⟨hp, hs, hq, -⟩ := hexDigitUpper_plain (show c.toNat / 16 < 16 by omega)
    obtain ⟨hp', hs', hq', -⟩ := hexDigitUpper_plain (Nat.mod_lt c.toNat (show 0 < 16 by decide))
    have hzero : ∀ text, find ('0' :: text) = push '0' (find text) := hf.plain (by decide) (by decide) (by decide)
    simp only [List.cons_append, List.nil_append]
    rw [hf.slash, hzero, hzero, hf.plain hq hs hp, hf.plain hq' hs' hp']
    cases find text <;> rfl

theorem escapes_basicBody : Escapes basicBody where
  plain hquote hslash hplain text := by
    rw [basicBody, if_neg hquote, if_pos hplain] <;> intros <;> contradiction
  slash c text := by rw [basicBody]

theorem basicBody_flatMap (s rest : List Char) :
    basicBody (s.flatMap escapeChar ++ '"' :: rest) = some (s.flatMap escapeChar, rest) := by
  induction s with
  | nil => simp [basicBody]
  | cons c s ih =>
    rw [List.flatMap_cons, List.append_assoc, escapes_basicBody.reads (escaping_escapeChar c), ih]
    rfl

theorem literalBody_append (h : ∀ c ∈ s, isPlain c = true ∧ c ≠ '\'') (rest : List Char) :
    literalBody (s ++ '\'' :: rest) = some (s, rest) := by
  induction s with
  | nil => rfl
  | cons c s ih =>
    obtain ⟨hplain, hquote⟩ := h c List.mem_cons_self
    rw [List.cons_append, literalBody, if_neg hquote, if_pos hplain, ih fun d hd => h d (List.mem_cons_of_mem c hd)]
    rfl

/-! ## several lines -/

/-- How the end of a string in three quotes is found: three quotes end it, of which the last count; one or two do
not. -/
structure Closing (quote : Char) (find : List Char → Option (List Char × List Char)) : Prop where
  close : ∀ rest, find (quote :: quote :: quote :: rest) = some (closeThree quote rest)
  pass : ∀ text, (∀ more, text ≠ quote :: quote :: more) → find (quote :: text) = push quote (find text)

variable {quote : Char} {find : List Char → Option (List Char × List Char)} {run : Nat}

/-- One or two quotes in front of the closing ones belong to the text. -/
theorem Closing.closes (hf : Closing quote find) (hrun : run ≤ 2) (hrest : rest.head? ≠ some quote) :
    find (List.replicate run quote ++ quote :: quote :: quote :: rest) = some (List.replicate run quote, rest) := by
  have hthree : List.replicate run quote ++ quote :: quote :: quote :: rest =
      quote :: quote :: quote :: (List.replicate run quote ++ rest) := by
    obtain rfl | rfl | rfl : run = 0 ∨ run = 1 ∨ run = 2 := by omega
    all_goals rfl
  have hextra : closeThree quote (List.replicate run quote ++ rest) = (List.replicate run quote, rest) := by
    have htake : ((List.replicate run quote ++ rest).take 2).takeWhile (· == quote) = List.replicate run quote := by
      obtain rfl | rfl | rfl : run = 0 ∨ run = 1 ∨ run = 2 := by omega
      all_goals cases rest <;> simp_all
    rw [closeThree, htake, List.length_replicate, List.drop_left' List.length_replicate]
  rw [hthree, hf.close, hextra]

/-- Two quotes at most in front of something else belong to the text. -/
theorem Closing.passes (hf : Closing quote find) (hrun : run ≤ 2) (hc : c ≠ quote) (text : List Char) :
    find (List.replicate run quote ++ c :: text) = pushAll (List.replicate run quote) (find (c :: text)) := by
  have hone : find (quote :: c :: text) = push quote (find (c :: text)) :=
    hf.pass _ fun more h => hc (List.cons.inj h).1
  have htwo : find (quote :: quote :: c :: text) = push quote (find (quote :: c :: text)) :=
    hf.pass _ fun more h => hc (List.cons.inj (List.cons.inj h).2).1
  obtain rfl | rfl | rfl : run = 0 ∨ run = 1 ∨ run = 2 := by omega
  · cases h : find (c :: text) <;> simp [pushAll, h]
  · exact hone
  · exact htwo.trans (by rw [hone]; cases find (c :: text) <;> rfl)

/-- Characters that are read as they stand, of which the first is no quote. -/
structure Token (quote : Char) (find : List Char → Option (List Char × List Char)) (chars : List Char) : Prop where
  opens : ∃ c more, chars = c :: more ∧ c ≠ quote
  reads : ∀ text, find (chars ++ text) = pushAll chars (find text)

/-- A text behind so many quotes in which no more than two stand in a row between the tokens. -/
inductive Runs (quote : Char) (find : List Char → Option (List Char × List Char)) : Nat → List Char → Prop where
  | nil {run : Nat} : Runs quote find run []
  | quote {run : Nat} {text : List Char} (hrun : run < 2) (h : Runs quote find (run + 1) text) :
    Runs quote find run (quote :: text)
  | token {run : Nat} {chars text : List Char} (ht : Token quote find chars) (h : Runs quote find 0 text) :
    Runs quote find run (chars ++ text)

/-- Such a text is found whole in front of the closing quotes. -/
theorem Runs.found (hf : Closing quote find) (h : Runs quote find run text) (hrun : run ≤ 2)
    (hrest : rest.head? ≠ some quote) :
    find (List.replicate run quote ++ (text ++ quote :: quote :: quote :: rest)) =
      some (List.replicate run quote ++ text, rest) := by
  induction h with
  | nil =>
    rw [List.append_nil]
    exact hf.closes hrun hrest
  | @quote run text hlt _ ih =>
    have hnext : ∀ more, List.replicate run quote ++ quote :: more = List.replicate (run + 1) quote ++ more :=
      fun more => by rw [List.replicate_succ', List.append_assoc, List.singleton_append]
    rw [List.cons_append, hnext, hnext]
    exact ih hlt
  | @token run chars text ht _ ih =>
    obtain ⟨c, more, rfl, hc⟩ := ht.opens
    have htext : find (text ++ quote :: quote :: quote :: rest) = some (text, rest) := ih (Nat.zero_le 2)
    have hreads := ht.reads (text ++ quote :: quote :: quote :: rest)
    rw [htext] at hreads
    rw [List.append_assoc, List.cons_append, hf.passes hrun hc, ← List.cons_append, hreads]
    rfl

theorem closing_multiBasicBody : Closing '"' multiBasicBody where
  close rest := by rw [multiBasicBody]
  pass text h := by
    rw [multiBasicBody]
    · rfl
    case x_3 => exact fun more _ => h more
    all_goals simp

theorem multiBasicBody_plain (hquote : c ≠ '"') (hslash : c ≠ '\\') (hplain : isPlain c = true ∨ c = '\n')
    (text : List Char) : multiBasicBody (c :: text) = push c (multiBasicBody text) := by
  rw [multiBasicBody, if_pos (by simpa using hplain)] <;> intros <;> contradiction

theorem token_newline : Token '"' multiBasicBody ['\n'] where
  opens := ⟨_, _, rfl, by decide⟩
  reads text := multiBasicBody_plain (by decide) (by decide) (.inr rfl) text

theorem escapes_multiBasicBody : Escapes multiBasicBody where
  plain hquote hslash hplain text := multiBasicBody_plain hquote hslash (.inl hplain) text
  slash c text := by rw [multiBasicBody]

theorem token_escaping (h : Escaping c chars) : Token '"' multiBasicBody chars where
  opens := by
    obtain ⟨d, more, hd, hquote, -⟩ := h.opens
    exact ⟨d, more, hd, hquote⟩
  reads := escapes_multiBasicBody.reads h

theorem runs_escapeMulti (s : List Char) (run : Nat) : Runs '"' multiBasicBody run (escapeMulti run s) := by
  induction s generalizing run with
  | nil => exact .nil
  | cons c s ih =>
    rw [escapeMulti]
    split
    · subst c
      exact .token token_newline (ih 0)
    · split
      · rename_i hquote
        rw [hquote.1]
        exact .quote hquote.2 (ih (run + 1))
      · exact .token (token_escaping (escaping_escapeChar c)) (ih 0)

theorem unescape_escapeMulti (s : List Char) (run : Nat) :
    unescape multiline .nothing (escapeMulti run s) = some s := by
  induction s generalizing run with
  | nil => rfl
  | cons c s ih =>
    rw [escapeMulti]
    split
    · simp_all [unescape]
    · split
      · simp_all [unescape]
      · rw [unescape_escaping (escaping_escapeChar c), ih, Option.map_some]

theorem return_not_mem_escapeMulti (s : List Char) (run : Nat) : '\r' ∉ escapeMulti run s := by
  induction s generalizing run with
  | nil => exact List.not_mem_nil
  | cons c s ih =>
    rw [escapeMulti]
    split
    · simp_all
    · split
      · simp_all
      · exact List.not_mem_append (escaping_escapeChar c).return_not_mem (ih 0)

theorem closing_multiLiteralBody : Closing '\'' multiLiteralBody where
  close rest := by rw [multiLiteralBody]
  pass text h := by
    rw [multiLiteralBody]
    · rfl
    · exact fun more _ => h more

theorem token_literal (hquote : c ≠ '\'') (hplain : isPlain c = true ∨ c = '\n') :
    Token '\'' multiLiteralBody [c] where
  opens := ⟨_, _, rfl, hquote⟩
  reads text := by
    rw [List.singleton_append, multiLiteralBody, if_pos (by simpa using hplain)]
    · rfl
    · intros
      contradiction

/-- No more than so many of the character stand in a row, counted from so many in front. -/
def RunsAtMost (most : Nat) (q : Char) : Nat → List Char → Prop
  | _, [] => True
  | run, c :: rest => if c = q then run < most ∧ RunsAtMost most q (run + 1) rest else RunsAtMost most q 0 rest

theorem runs_literal (hs : RunsAtMost 2 '\'' run s) (hplain : ∀ c ∈ s, isPlain c = true ∨ c = '\n') :
    Runs '\'' multiLiteralBody run s := by
  induction s generalizing run with
  | nil => exact .nil
  | cons c s ih =>
    have hmore : ∀ d ∈ s, isPlain d = true ∨ d = '\n' := fun d hd => hplain d (List.mem_cons_of_mem c hd)
    rw [RunsAtMost] at hs
    split at hs
    · subst c
      exact .quote hs.1 (ih hs.2 hmore)
    · rename_i hquote
      exact .token (token_literal hquote (hplain c List.mem_cons_self)) (ih hs hmore)

/-! ## the form that is chosen -/

/-- The texts that a form can hold. -/
def Quoting.Holds (s : List Char) : Quoting → Prop
  | .basic | .multiBasic => True
  | .literal => ∀ c ∈ s, isPlain c = true ∧ c ≠ '\''
  | .multiLiteral => (∀ c ∈ s, isPlain c = true ∨ c = '\n') ∧ RunsAtMost 2 '\'' 0 s

theorem runsAtMost_of_foldl {most now longest : Nat} {q : Char} (h : (s.foldl (fun (now, most) x =>
    let now := if x = q then now + 1 else 0
    (now, max now most)) (now, longest)).2 ≤ most) : longest ≤ most ∧ RunsAtMost most q now s := by
  induction s generalizing now longest with
  | nil => exact ⟨h, trivial⟩
  | cons c s ih =>
    obtain ⟨hmost, hs⟩ := ih h
    rw [RunsAtMost]
    split
    · rename_i hc
      rw [if_pos hc] at hs hmost
      exact ⟨by omega, by omega, hs⟩
    · rename_i hc
      rw [if_neg hc] at hs
      exact ⟨by omega, hs⟩

theorem runsAtMost_of_longestRun {most : Nat} {q : Char} (h : longestRun q s ≤ most) : RunsAtMost most q 0 s :=
  (runsAtMost_of_foldl h).2

theorem ne_of_runsAtMost_zero {q : Char} (h : RunsAtMost 0 q run s) : ∀ c ∈ s, c ≠ q := by
  induction s generalizing run with
  | nil => exact fun c hc => by cases hc
  | cons c s ih =>
    rw [RunsAtMost] at h
    split at h
    · exact absurd h.1 (Nat.not_lt_zero _)
    · rename_i hc
      exact List.forall_mem_cons.2 ⟨hc, ih h⟩

theorem plain_of_not_needsEscapes (h : needsEscapes s = false) : ∀ c ∈ s, isPlain c = true ∨ c = '\n' := by
  intro c hc
  have := List.any_eq_false.1 h c hc
  by_cases hn : c = '\n' <;> by_cases ht : c = '\t' <;> simp_all [isPlain]

/-- The form that is chosen for a text can hold it. -/
theorem holds_quotingOf (s : List Char) : (quotingOf s).Holds s := by
  rw [quotingOf]
  cases hescapes : needsEscapes s with
  | true => cases s.contains '\n' <;> trivial
  | false =>
    have hplain := plain_of_not_needsEscapes hescapes
    simp only [Bool.false_eq_true, if_false]
    split
    · trivial
    · split
      · rename_i hliteral
        simp only [Bool.and_eq_true, decide_eq_true_eq, Bool.not_eq_true', List.contains_eq_mem,
          decide_eq_false_iff_not] at hliteral
        intro c hc
        have hquote : c ≠ '\'' := ne_of_runsAtMost_zero (runsAtMost_of_longestRun (Nat.le_of_eq hliteral.1)) c hc
        exact ⟨(hplain c hc).resolve_right fun h => hliteral.2 (h ▸ hc), hquote⟩
      · split
        · trivial
        · split
          · rename_i hsingles
            exact ⟨hplain, runsAtMost_of_longestRun hsingles⟩
          · split <;> trivial

/-! ## reading back -/

theorem readString_basic (s : List Char) (hrest : Unquoted rest) :
    readString ('"' :: (s.flatMap escapeChar ++ '"' :: rest)) = some (.ofList s, rest) := by
  have hline : readLineString ('"' :: (s.flatMap escapeChar ++ '"' :: rest)) = some (.ofList s, rest) := by
    simp [readLineString, basicBody_flatMap, finish, unescape_flatMap]
  -- It is no string in three quotes: behind the first quote there are not two more.
  have hopens : ∀ more, s.flatMap escapeChar ++ '"' :: rest ≠ '"' :: '"' :: more := by
    intro more h
    cases s with
    | nil => exact (hrest '"' (by simp_all)).1 rfl
    | cons c s =>
      obtain ⟨d, more, hd, hne⟩ := (escaping_escapeChar c).opens
      rw [List.flatMap_cons, hd] at h
      exact hne.1 (List.cons.inj h).1
  rw [readString, hline]
  · exact fun more h => hopens more (List.cons.inj h).2
  · simp

theorem readString_literal (hs : ∀ c ∈ s, isPlain c = true ∧ c ≠ '\'') (hrest : Unquoted rest) :
    readString ('\'' :: (s ++ '\'' :: rest)) = some (.ofList s, rest) := by
  have hline : readLineString ('\'' :: (s ++ '\'' :: rest)) = some (.ofList s, rest) := by
    simp [readLineString, literalBody_append hs, finish]
  have hopens : ∀ more, s ++ '\'' :: rest ≠ '\'' :: '\'' :: more := by
    intro more h
    cases s with
    | nil => exact (hrest '\'' (by simp_all)).2 rfl
    | cons c s => exact (hs c List.mem_cons_self).2 (List.cons.inj h).1
  rw [readString, hline]
  · simp
  · exact fun more h => hopens more (List.cons.inj h).2

/-- The line end that is put in front of a text of several lines is dropped again, and no other. -/
theorem dropNewline_append (h : text.head? = some '\n' → '\n' ∈ s) :
    dropNewline ((if s.contains '\n' then ['\n'] else []) ++ text) = text := by
  split
  · rfl
  · rename_i hs
    cases text with
    | nil => rfl
    | cons c text =>
      have hc : c ≠ '\n' := fun hc => hs (by simpa using h (hc ▸ rfl))
      rw [List.nil_append, dropNewline]
      exact fun rest hr => hc (List.cons.inj hr).1

theorem head?_escapeMulti (h : (escapeMulti 0 s ++ '"' :: rest).head? = some '\n') : '\n' ∈ s := by
  cases s with
  | nil => cases h
  | cons c s =>
    rw [escapeMulti] at h
    split at h
    · rename_i hc
      rw [hc]
      exact List.mem_cons_self
    · split at h
      · rename_i hc
        rw [hc.1] at h
        cases h
      · obtain ⟨d, more, hd, hne⟩ := (escaping_escapeChar c).opens
        rw [hd] at h
        exact absurd (Option.some.inj h) hne.2

theorem readString_multiBasic (s : List Char) (hrest : Unquoted rest) :
    readString ('"' :: '"' :: '"' :: ((if s.contains '\n' then ['\n'] else []) ++
      (escapeMulti 0 s ++ '"' :: '"' :: '"' :: rest))) = some (.ofList s, rest) := by
  have hfound : multiBasicBody (escapeMulti 0 s ++ '"' :: '"' :: '"' :: rest) = some (escapeMulti 0 s, rest) :=
    (runs_escapeMulti s 0).found closing_multiBasicBody (Nat.zero_le 2) fun h => (hrest _ h).1 rfl
  rw [readString, dropNewline_append head?_escapeMulti, hfound]
  simp [finish, unescape_escapeMulti]

theorem readString_multiLiteral (hplain : ∀ c ∈ s, isPlain c = true ∨ c = '\n') (hs : RunsAtMost 2 '\'' 0 s)
    (hrest : Unquoted rest) :
    readString ('\'' :: '\'' :: '\'' :: ((if s.contains '\n' then ['\n'] else []) ++
      (s ++ '\'' :: '\'' :: '\'' :: rest))) = some (.ofList s, rest) := by
  have hfound : multiLiteralBody (s ++ '\'' :: '\'' :: '\'' :: rest) = some (s, rest) :=
    (runs_literal hs hplain).found closing_multiLiteralBody (Nat.zero_le 2) fun h => (hrest _ h).2 rfl
  have hhead : (s ++ '\'' :: '\'' :: '\'' :: rest).head? = some '\n' → '\n' ∈ s := by
    cases s <;> simp_all
  rw [readString, dropNewline_append hhead, hfound]
  rfl

/-- **A string is read back** from the form that was chosen for it, in front of anything but a quote. -/
theorem readString_stringChars (s : List Char) (hrest : Unquoted rest) :
    readString (stringChars s ++ rest) = some (.ofList s, rest) := by
  have hholds := holds_quotingOf s
  rw [stringChars]
  cases hq : quotingOf s <;> rw [hq] at hholds <;>
    simp only [List.append_assoc, List.cons_append, List.nil_append]
  · exact readString_basic s hrest
  · exact readString_literal hholds hrest
  · exact readString_multiBasic s hrest
  · exact readString_multiLiteral hholds.1 hholds.2 hrest

/-! ## line ends -/

/-- No carriage return stands in a string: it is written as an escape. -/
theorem return_not_mem_stringChars (s : List Char) : '\r' ∉ stringChars s := by
  have hholds := holds_quotingOf s
  have hplain : ∀ c : Char, isPlain c = true ∨ c = '\n' → c ≠ '\r' := by
    rintro c hc rfl
    revert hc
    decide
  have hstart : '\r' ∉ (if s.contains '\n' then ['\n'] else [] : List Char) := by split <;> decide
  have hbasic : '\r' ∉ s.flatMap escapeChar := fun h => by
    obtain ⟨c, -, hc⟩ := List.mem_flatMap.1 h
    exact (escaping_escapeChar c).return_not_mem hc
  rw [stringChars]
  cases hq : quotingOf s <;> rw [hq] at hholds <;> simp only [List.mem_append, not_or]
  · exact ⟨⟨by decide, hbasic⟩, by decide⟩
  · exact ⟨⟨by decide, fun h => hplain _ (.inl (hholds _ h).1) rfl⟩, by decide⟩
  · exact ⟨⟨⟨by decide, hstart⟩, return_not_mem_escapeMulti s 0⟩, by decide⟩
  · exact ⟨⟨⟨by decide, hstart⟩, fun h => hplain _ (hholds.1 _ h) rfl⟩, by decide⟩

end ProxyKeeper.Toml

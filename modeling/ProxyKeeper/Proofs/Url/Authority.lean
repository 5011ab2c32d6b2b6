/-
How the text of a URL is cut, as far as its port: what counts of the text, the scheme, the authority, and in the
authority the host and the port.

An authority ends at the first character that ends one (`authority`). The address in it is what is behind the last
`@`, and the host ends at the first colon outside of brackets. What is read as the port is the rest of the authority
(`portText`), and nothing else (`port_of_withAuthority`). A text in front of a port can thus move it by such a
character alone, and a text behind it by an `@` or by digits; the lemmas about `++` say how.
-/
import ProxyKeeper.Proofs.Results
import ProxyKeeper.Url.Parser

namespace ProxyKeeper

/-! ## cuts of joined texts -/

namespace Text

variable {x y : List Char} {sep : Char}

theorem cutAt_append_of_not_mem (h : sep ∉ x) :
    cutAt sep (x ++ y) = (cutAt sep y).map fun p => (x ++ p.1, p.2) := by
  induction x with
  | nil => simp
  | cons c x ih =>
    obtain ⟨hc, hx⟩ := not_or.1 (mt List.mem_cons.2 h)
    rw [List.cons_append, cutAt, if_neg (Ne.symm hc), ih hx, Option.map_map]
    rfl

theorem cutAt_append_of_mem (h : sep ∈ x) :
    cutAt sep (x ++ y) = (cutAt sep x).map fun p => (p.1, p.2 ++ y) := by
  induction x with
  | nil => cases h
  | cons c x ih =>
    rw [List.cons_append, cutAt, cutAt]
    by_cases hc : c = sep
    · rw [if_pos hc, if_pos hc]
      rfl
    · have hx : sep ∈ x := (List.mem_cons.1 h).resolve_left (Ne.symm hc)
      rw [if_neg hc, if_neg hc, ih hx, Option.map_map, Option.map_map]
      rfl

theorem cutAt_eq_none_iff : cutAt sep x = none ↔ sep ∉ x := by
  induction x with
  | nil => simp [cutAt]
  | cons c x ih =>
    rw [cutAt]
    by_cases hc : c = sep
    · simp [hc]
    · rw [if_neg hc, Option.map_eq_none_iff, ih, List.mem_cons, not_or]
      exact ⟨fun h => ⟨Ne.symm hc, h⟩, fun h => h.2⟩

theorem cutAt_eq_some {p : List Char × List Char} (h : cutAt sep x = some p) : x = p.1 ++ sep :: p.2 := by
  induction x generalizing p with
  | nil => cases h
  | cons c x ih =>
    rw [cutAt] at h
    by_cases hc : c = sep
    · rw [if_pos hc] at h
      cases h
      rw [hc]
      rfl
    · rw [if_neg hc] at h
      obtain ⟨q, hq, rfl⟩ := Option.map_eq_some_iff.1 h
      rw [ih hq]
      rfl

end Text

namespace Url

open Text

variable {x y z s : List Char} {c d : Char}

/-! ## what counts of a text -/

/-- Without tabs and line ends. -/
def kept (s : List Char) : List Char := s.filter fun c => c ≠ '\t' && c ≠ '\n' && c ≠ '\r'

def trimmedStart (s : List Char) : List Char := s.dropWhile (· ≤ ' ')

def trimmedEnd (s : List Char) : List Char := (s.reverse.dropWhile (· ≤ ' ')).reverse

theorem dropWhile_append_cons {p : Char → Bool} (hc : p c = false) :
    (x ++ c :: y).dropWhile p = x.dropWhile p ++ c :: y := by
  rw [List.dropWhile_append]
  split
  · rename_i hx
    rw [List.isEmpty_iff.1 hx, List.dropWhile_cons_of_neg (by simp [hc])]
    rfl
  · rfl

/-- Blanks are lost in front of the first character that is none and behind the last one. -/
theorem cleaned_append_cons (hc : (c ≤ ' ') = False) (hd : (d ≤ ' ') = False) :
    cleaned (x ++ c :: y ++ d :: z) = kept (trimmedStart x) ++ kept (c :: y ++ [d]) ++ kept (trimmedEnd z) := by
  have hstart : (x ++ c :: y ++ d :: z).dropWhile (· ≤ ' ') = trimmedStart x ++ c :: y ++ d :: z := by
    rw [List.append_assoc, List.cons_append, dropWhile_append_cons (by simp [hc])]
    simp [trimmedStart]
  have hend : ((trimmedStart x ++ c :: y ++ d :: z).reverse.dropWhile (· ≤ ' ')).reverse =
      trimmedStart x ++ c :: y ++ d :: trimmedEnd z := by
    have hreverse : (trimmedStart x ++ c :: y ++ d :: z).reverse =
        z.reverse ++ d :: (trimmedStart x ++ c :: y).reverse := by simp
    rw [hreverse, dropWhile_append_cons (by simp [hd])]
    simp [trimmedEnd]
  rw [cleaned]
  simp only [hstart, hend, kept, ← List.filter_append]
  simp

/-! ## the scheme -/

/-- A scheme is what stands in front of the first colon. -/
theorem scheme?_eq_some {scheme : String} {rest : List Char} (h : scheme? s = some (scheme, rest)) :
    ∃ name, cutAt ':' s = some (name, rest) ∧ scheme = .ofList (name.map Char.toLower) := by
  rw [scheme?.eq_def] at h
  split at h
  · cases h
  · split at h
    · cases h
    · rename_i first more _
      split at h
      · rename_i hdrop
        cases h
        refine ⟨(first :: more).takeWhile isSchemeChar, ?_, rfl⟩
        have hcolon : ':' ∉ (first :: more).takeWhile isSchemeChar := fun hm =>
          Bool.false_ne_true (List.all_eq_true.1 List.all_takeWhile ':' hm)
        have hsplit := List.takeWhile_append_dropWhile (p := isSchemeChar) (l := first :: more)
        rw [hdrop] at hsplit
        conv => lhs; rw [← hsplit, cutAt_append_of_not_mem hcolon]
        simp [cutAt]
      · cases h

theorem scheme?_of_alpha {name : List Char} (hne : name ≠ []) (h : ∀ c ∈ name, c.isAlpha = true) (rest : List Char) :
    scheme? (name ++ ':' :: rest) = some (.ofList (name.map Char.toLower), rest) := by
  have hchars : ∀ c ∈ name, isSchemeChar c = true := fun c hc => by
    simp [isSchemeChar, Char.isAlphanum, h c hc]
  obtain ⟨first, more, rfl⟩ := List.exists_cons_of_ne_nil hne
  have hfirst := h first List.mem_cons_self
  rw [scheme?.eq_def]
  simp only [List.cons_append, hfirst, Bool.not_true, Bool.false_eq_true, if_false]
  rw [← List.cons_append, List.dropWhile_append_of_pos hchars, List.takeWhile_append_of_pos hchars,
    List.dropWhile_cons_of_neg (by decide), List.takeWhile_cons_of_neg (by decide), List.append_nil]
  rfl

/-! ## the address behind the user information -/

/-- What is behind the last `@`. -/
def address (s : List Char) : List Char := ((cutLastAt s).map (·.2)).getD s

theorem address_append_of_not_mem (h : '@' ∉ y) : address (x ++ y) = address x ++ y := by
  have hcut := cutAt_append_of_not_mem (y := x.reverse) (fun hm => h (List.mem_reverse.1 hm))
  simp only [address, cutLastAt, List.reverse_append, hcut]
  cases cutAt '@' x.reverse with
  | none => rfl
  | some p => simp

theorem address_append_of_mem (h : '@' ∈ y) : address (x ++ y) = address y := by
  have hcut := cutAt_append_of_mem (y := x.reverse) (List.mem_reverse.2 h)
  have hfound : cutAt '@' y.reverse ≠ none := fun hn => cutAt_eq_none_iff.1 hn (List.mem_reverse.2 h)
  simp only [address, cutLastAt, List.reverse_append, hcut]
  cases hp : cutAt '@' y.reverse with
  | none => exact absurd hp hfound
  | some p => rfl

theorem address_suffix (s : List Char) : address s <:+ s := by
  rw [address, cutLastAt]
  cases hp : cutAt '@' s.reverse with
  | none => exact List.suffix_rfl
  | some p =>
    have hs : s = p.2.reverse ++ '@' :: p.1.reverse := by
      rw [← List.reverse_reverse s, cutAt_eq_some hp]
      simp
    exact ⟨p.2.reverse ++ ['@'], by rw [hs]; simp⟩

/-! ## the host and the port -/

/-- Whether a bracket is open behind a text; none if the text has a colon outside of brackets. -/
def brackets : Bool → List Char → Option Bool
  | inside, [] => some inside
  | inside, c :: rest =>
    if c = ':' && !inside then none else brackets ((inside || c = '[') && c ≠ ']') rest

/-- An open bracket stays open. -/
theorem brackets_of_not_mem (h : ']' ∉ s) : brackets true s = some true := by
  induction s with
  | nil => rfl
  | cons c s ih =>
    obtain ⟨hc, hs⟩ := not_or.1 (mt List.mem_cons.2 h)
    rw [brackets, if_neg (by simp), Bool.true_or, decide_eq_true (Ne.symm hc)]
    exact ih hs

/-- None of these characters ends an authority. -/
def Inner (s : List Char) : Prop := ∀ c ∈ s, endsAuthority .special c = false

instance (s : List Char) : Decidable (Inner s) := List.decidableBAll _ s

/-- A text that goes on with what ends an authority, if it goes on. -/
def Ends (s : List Char) : Prop := ∀ c ∈ s.head?, endsAuthority .special c = true

instance (s : List Char) : Decidable (Ends s) :=
  decidable_of_iff (s.head?.all (endsAuthority .special) = true) (by cases s <;> simp [Ends])

theorem hostText_append_of_some {b b' : Bool} (hx : Inner x) (h : brackets b x = some b') :
    hostText .special b (x ++ y) =
      (x ++ (hostText .special b' y).1, (hostText .special b' y).2) := by
  -- along the first text, which is all host; whether a bracket is open changes on the way
  induction x generalizing b with
  | nil =>
    cases h
    rfl
  | cons c x ih =>
    obtain ⟨hc, hx⟩ := List.forall_mem_cons.1 hx
    rw [brackets] at h
    by_cases hcolon : (c = ':' && !b) = true
    · rw [if_pos hcolon] at h
      cases h
    · rw [if_neg hcolon] at h
      rw [List.cons_append, hostText, if_neg (by simpa [hc] using hcolon), ih hx h]
      rfl

theorem hostText_append_of_none {b : Bool} (hx : Inner x) (h : brackets b x = none) :
    ∃ front behind, x = front ++ ':' :: behind ∧
      ∀ y, hostText .special b (x ++ y) = (front, ':' :: behind ++ y) := by
  induction x generalizing b with
  | nil => cases h
  | cons c x ih =>
    obtain ⟨hc, hx⟩ := List.forall_mem_cons.1 hx
    rw [brackets] at h
    by_cases hcolon : (c = ':' && !b) = true
    · obtain ⟨rfl, hb⟩ : c = ':' ∧ b = false := by simpa using hcolon
      refine ⟨[], x, rfl, fun y => ?_⟩
      rw [List.cons_append, hostText, if_pos (by simp [hb])]
    · rw [if_neg hcolon] at h
      obtain ⟨front, behind, rfl, hhost⟩ := ih hx h
      refine ⟨c :: front, behind, rfl, fun y => ?_⟩
      rw [List.cons_append, hostText, if_neg (by simpa [hc] using hcolon), hhost]

theorem hostText_of_ends {b : Bool} (h : Ends s) : hostText .special b s = ([], s) := by
  cases s with
  | nil => rfl
  | cons c rest =>
    have hc := h c rfl
    rw [hostText, if_pos (by simp [hc])]

theorem hostText_append_of_ends {b : Bool} (hx : Inner x) (hy : Ends y) :
    hostText .special b (x ++ y) = ((hostText .special b x).1, (hostText .special b x).2 ++ y) := by
  have hnil : ∀ b, hostText .special b [] = ([], []) := fun b => by rw [hostText]
  cases hb : brackets b x with
  | none =>
    obtain ⟨front, behind, -, hhost⟩ := hostText_append_of_none hx hb
    have hx := hhost []
    rw [List.append_nil] at hx
    rw [hhost, hx, List.append_nil]
  | some b' =>
    have hx' := hostText_append_of_some (y := []) hx hb
    rw [List.append_nil, hnil] at hx'
    rw [hostText_append_of_some hx hb, hostText_of_ends hy, hx']
    rfl

/-- The text up to the end of the authority, and the text from there on. -/
def authority (s : List Char) : List Char := s.takeWhile fun c => !endsAuthority .special c

def behind (s : List Char) : List Char := s.dropWhile fun c => !endsAuthority .special c

/-- The host in an authority, and what is behind it: nothing, or the port with its colon. -/
def hostPart (a : List Char) : List Char := (hostText .special false (address a)).1

def portText (a : List Char) : List Char := (hostText .special false (address a)).2

theorem inner_authority (s : List Char) : Inner (authority s) := by
  intro c hc
  have hall := List.all_eq_true.1 (List.all_takeWhile (p := fun c => !endsAuthority .special c) (l := s)) c hc
  simpa using hall

theorem ends_behind (s : List Char) : Ends (behind s) := by
  intro c hc
  have hhead := List.head?_dropWhile_not (fun c => !endsAuthority .special c) s
  rw [behind] at hc
  rw [hc] at hhead
  simpa using hhead

theorem authority_eq_nil : authority s = [] ↔ Ends s := by
  cases s with
  | nil => exact iff_of_true rfl fun c hc => by cases hc
  | cons c rest =>
    rw [authority, List.takeWhile_cons, Ends]
    cases hc : endsAuthority .special c <;> simp [hc]

theorem authority_append_of_inner (hx : Inner x) : authority (x ++ y) = x ++ authority y :=
  List.takeWhile_append_of_pos fun c hc => by rw [hx c hc]; rfl

/-- Behind what ends an authority nothing counts. -/
theorem authority_append_of_not_inner (hx : ¬Inner x) : authority (x ++ y) = authority x := by
  rw [authority, List.takeWhile_append, if_neg, authority]
  intro hlen
  have hall := (List.takeWhile_prefix (l := x) fun c => !endsAuthority .special c).eq_of_length hlen
  exact hx (hall ▸ inner_authority x)

theorem inner_address {a : List Char} (h : Inner a) : Inner (address a) := fun c hc =>
  h c ((address_suffix a).mem hc)

theorem portText_cases {a : List Char} (h : Inner a) :
    portText a = [] ∨ ∃ digits, portText a = ':' :: digits ∧ Inner digits := by
  have hx := inner_address h
  cases hb : brackets false (address a) with
  | none =>
    obtain ⟨front, rest, ha, hhost⟩ := hostText_append_of_none hx hb
    have hself := hhost []
    rw [List.append_nil, List.append_nil] at hself
    refine .inr ⟨rest, by rw [portText, hself], fun c hc => hx c ?_⟩
    rw [ha]
    exact List.mem_append_right _ (List.mem_cons_of_mem _ hc)
  | some b =>
    have hself := hostText_append_of_some (y := []) hx hb
    rw [List.append_nil, hostText] at hself
    exact .inl (by rw [portText, hself])

/-! ## reading -/

/-- What is left behind the user information is the address and what is behind the authority. -/
theorem userinfo_cases (s : List Char) :
    (∃ name password, userinfo .special s = .ok (name, password, address (authority s) ++ behind s)) ∨
      userinfo .special s = .error .emptyHost ∧ address (authority s) = [] := by
  simp only [userinfo, ← authority.eq_def, ← behind.eq_def, address]
  cases cutLastAt (authority s) with
  | none =>
    have hsplit : authority s ++ behind s = s := List.takeWhile_append_dropWhile
    exact .inl ⟨"", "", by rw [Option.map_none, Option.getD_none, hsplit]⟩
  | some p =>
    obtain ⟨user, host⟩ := p
    cases user with
    | nil =>
      -- an `@` alone is refused, but only in front of more
      cases host with
      | nil =>
        cases behind s with
        | nil => exact .inl ⟨"", "", rfl⟩
        | cons c rest => exact .inr ⟨rfl, rfl⟩
      | cons c host => exact .inl ⟨"", "", rfl⟩
    | cons c user => exact .inl ⟨_, _, rfl⟩

theorem not_isDigit_of_endsAuthority {c : Char} (h : endsAuthority .special c = true) : c.isDigit = false := by
  simp only [endsAuthority, Bool.or_eq_true, Bool.and_eq_true, decide_eq_true_eq] at h
  obtain ((rfl | rfl) | rfl) | ⟨-, rfl⟩ := h <;> decide

/-- What may be behind a port is what ends an authority. -/
theorem endsPort_eq (c : Char) :
    (decide (c = '/') || decide (c = '\\') || decide (c = '?') || decide (c = '#')) = endsAuthority .special c := by
  rw [endsAuthority, SchemeKind.isSpecial, Bool.true_and]
  ac_rfl

/-- A port is read as digits up to the end of the authority. -/
theorem readPort_append (scheme : String) {digits : List Char} (hd : Inner digits) (hy : Ends y) :
    readPort scheme (digits ++ y) =
      if digits.all Char.isDigit then
        if digits = [] then .ok (none, y)
        else match readDecimal UInt16.size digits with
          | none => .error .badPort
          | some n => .ok (if defaultPort? scheme = some n.toUInt16 then none else some n.toUInt16, y)
      else .error .badPort := by
  simp only [readPort, endsPort_eq]
  cases hrest : digits.dropWhile Char.isDigit with
  | nil =>
    have hself := List.takeWhile_append_dropWhile (p := Char.isDigit) (l := digits)
    rw [hrest, List.append_nil] at hself
    have hall : ∀ c ∈ digits, c.isDigit = true := List.all_eq_true.1 (hself ▸ List.all_takeWhile)
    have hy' : y.takeWhile Char.isDigit = [] ∧ y.dropWhile Char.isDigit = y := by
      cases y with
      | nil => exact ⟨rfl, rfl⟩
      | cons c rest =>
        have hc := not_isDigit_of_endsAuthority (hy c rfl)
        simp [hc]
    have hend : y.head?.all (endsAuthority .special) = true := by
      cases y with
      | nil => rfl
      | cons c rest => exact hy c rfl
    rw [List.takeWhile_append_of_pos hall, List.dropWhile_append_of_pos hall, hy'.1, hy'.2, List.append_nil,
      if_pos hend, if_pos (List.all_eq_true.2 hall)]
    cases digits <;> rfl
  | cons c rest =>
    -- the first character that is no digit is still in front of the end, so it is refused
    have hc : c ∈ digits := (List.dropWhile_suffix _).mem (hrest ▸ List.mem_cons_self)
    have hdigit : c.isDigit = false := by
      have hhead := List.head?_dropWhile_not Char.isDigit digits
      rwa [hrest] at hhead
    have hall : digits.all Char.isDigit ≠ true := fun hall => by
      rw [List.all_eq_true.1 hall c hc] at hdigit
      cases hdigit
    have hdrop : (digits ++ y).dropWhile Char.isDigit = c :: (rest ++ y) := by
      rw [List.dropWhile_append, hrest]
      rfl
    rw [hdrop, List.head?_cons, Option.all_some, hd c hc, if_neg Bool.false_ne_true, if_neg hall]

theorem Host.ne_empty_of_special {text : List Char} {host : Host} (h : Host.special text = .ok host) :
    host ≠ .domain "" := by
  rw [Host.special.eq_def] at h
  split at h
  · rw [Host.bracketed] at h
    split at h
    · split at h <;> cases h
      exact Host.noConfusion
    · cases h
  · split at h
    · cases h
    · split at h
      · cases h
      · split at h
        · cases h
        · rename_i name _ hne
          split at h
          · split at h <;> cases h
            exact Host.noConfusion
          · cases h
            intro hempty
            have hname : String.ofList name = "" := Host.domain.inj hempty
            exact hne (by simpa using hname)

/-- Reads the port that may stand behind a host. -/
def portBehind (scheme : String) (s : List Char) : Except ParseError (Option UInt16 × List Char) :=
  match s with
  | ':' :: digits => readPort scheme digits
  | s => .ok (none, s)

theorem portBehind_of_ne {scheme : String} (h : ∀ digits, s ≠ ':' :: digits) :
    portBehind scheme s = .ok (none, s) := by
  rw [portBehind]
  exact fun digits hs => h digits hs

/-- Behind the slashes of a special scheme: no host that is read is empty, so that nothing is asked of an empty one. -/
theorem withAuthority_special (scheme : String) (s : List Char) :
    withAuthority scheme .special s = do
      let (username, password, s) ← userinfo .special s
      let host ← Host.special (hostText .special false s).1
      let (port, s) ← portBehind scheme (hostText .special false s).2
      let (query, fragment) := queryAndFragment .special (s.dropWhile fun c => !endsPath c)
      return ⟨scheme, username, password, some host, port,
        pathBehindHost .special (s.takeWhile fun c => !endsPath c), query, fragment⟩ := by
  rw [withAuthority]
  cases userinfo .special s with
  | error e => rfl
  | ok p =>
    obtain ⟨username, password, rest⟩ := p
    simp only [bind, Except.bind, SchemeKind.isSpecial, Bool.true_and, if_true]
    generalize (hostText .special false rest).1 = text
    generalize (hostText .special false rest).2 = left
    cases text with
    | nil => rfl
    | cons c text =>
      cases hs : Host.special (c :: text) with
      | error e => rfl
      | ok host =>
        have hne := Host.ne_empty_of_special hs
        simp only [List.isEmpty_cons, Bool.false_eq_true, if_false, hne, decide_false, Bool.false_and]
        cases left with
        | nil => rfl
        | cons c rest =>
          by_cases hc : c = ':'
          · subst hc
            rfl
          · rw [portBehind_of_ne fun digits h => hc (List.cons.inj h).1]
            split
            · next heq => exact absurd (List.cons.inj heq).1 hc
            · rfl

/-- What is read as a URL has a host in the place of the host, and its port is what is read behind that. -/
theorem withAuthority_ok {scheme : String} {u : Url} (h : withAuthority scheme .special s = .ok u) :
    u.scheme = scheme ∧ (∃ host, Host.special (hostPart (authority s)) = .ok host) ∧
      ∃ left, portBehind scheme (portText (authority s) ++ behind s) = .ok (u.port, left) := by
  rw [withAuthority_special] at h
  obtain ⟨⟨name, password, rest⟩, huser, h⟩ := bind_eq_ok.1 h
  obtain ⟨host, hhost, h⟩ := bind_eq_ok.1 h
  obtain ⟨⟨port, left⟩, hport, hurl⟩ := bind_eq_ok.1 h
  obtain ⟨name', password', huser'⟩ | ⟨huser', -⟩ := userinfo_cases s
  · rw [huser] at huser'
    cases huser'
    rw [hostText_append_of_ends (inner_address (inner_authority s)) (ends_behind s)] at hhost hport
    cases hurl
    exact ⟨rfl, ⟨host, hhost⟩, left, hport⟩
  · rw [huser] at huser'
    cases huser'

theorem withAuthority_of_ok {scheme : String} {host : Host} {port : Option UInt16} {left : List Char}
    (hhost : Host.special (hostPart (authority s)) = .ok host)
    (hport : portBehind scheme (portText (authority s) ++ behind s) = .ok (port, left)) :
    ∃ u, withAuthority scheme .special s = .ok u ∧ u.scheme = scheme := by
  obtain ⟨name, password, huser⟩ | ⟨-, hempty⟩ := userinfo_cases s
  · have hsplit := hostText_append_of_ends (b := false) (inner_address (inner_authority s)) (ends_behind s)
    rw [hostPart] at hhost
    rw [portText] at hport
    rw [withAuthority_special, huser]
    simp only [bind, Except.bind, hsplit, hhost, hport]
    exact ⟨_, rfl, rfl⟩
  · rw [hostPart, hempty, hostText] at hhost
    cases hhost

/-- A scheme is kept by whatever is read behind it. -/
def Keeps (scheme : String) (r : Except ParseError Url) : Prop := ∀ u, r = .ok u → u.scheme = scheme

section Keeps

variable {scheme : String}

theorem keeps_ok {u : Url} (h : u.scheme = scheme) : Keeps scheme (.ok u) := fun _ hu => by
  cases hu
  exact h

theorem keeps_error (e : ParseError) : Keeps scheme (.error e) := fun _ hu => by cases hu

theorem keeps_bind {α : Type} {x : Except ParseError α} {f : α → Except ParseError Url}
    (h : ∀ a, Keeps scheme (f a)) : Keeps scheme (x >>= f) := fun u hu => by
  obtain ⟨a, -, ha⟩ := bind_eq_ok.1 hu
  exact h a u ha

theorem keeps_ite {c : Prop} [Decidable c] {x y : Except ParseError Url} (hx : Keeps scheme x) (hy : Keeps scheme y) :
    Keeps scheme (if c then x else y) := by
  split
  · exact hx
  · exact hy

theorem keeps_withAuthority (kind : SchemeKind) (s : List Char) : Keeps scheme (withAuthority scheme kind s) := by
  rw [withAuthority]
  refine keeps_bind fun ⟨name, password, rest⟩ => ?_
  dsimp only
  generalize hostText kind false rest = p
  refine keeps_ite (keeps_error _) (keeps_ite (keeps_bind fun host => ?_) (keeps_bind fun host => ?_))
  all_goals
    generalize p.2 = left
    split
    · exact keeps_ite (keeps_bind fun _ => keeps_ite (keeps_error _) (keeps_ok rfl))
        (keeps_bind fun _ => keeps_ite (keeps_error _) (keeps_ok rfl))
    · exact keeps_bind fun _ => keeps_ite (keeps_error _) (keeps_ok rfl)

theorem keeps_other (s : List Char) : Keeps scheme (other scheme s) := by
  rw [other.eq_def]
  split
  · exact keeps_withAuthority _ _
  · exact keeps_ok rfl

theorem keeps_file (s : List Char) : Keeps "file" (file s) := by
  rw [file]
  exact keeps_bind fun _ => keeps_ok rfl

end Keeps

/-- What is read as a URL of a feed scheme is read as an authority behind its slashes. -/
theorem parse_eq_ok {text : String} {u : Url} (h : parse text = .ok u)
    (hscheme : u.scheme = "ws" ∨ u.scheme = "wss") :
    ∃ rest, scheme? (cleaned text.toList) = some (u.scheme, rest) ∧
      withAuthority u.scheme .special (rest.dropWhile isFileSlash) = .ok u := by
  rw [parse] at h
  cases hs : scheme? (cleaned text.toList) with
  | none =>
    rw [hs] at h
    cases h
  | some p =>
    obtain ⟨scheme, rest⟩ := p
    simp only [hs] at h
    cases hk : schemeKind scheme with
    | file =>
      rw [hk] at h
      have hfile := keeps_file _ _ h
      obtain hws | hws := hscheme <;>
        · rw [hws] at hfile
          simp at hfile
    | other =>
      rw [hk] at h
      obtain rfl := keeps_other _ _ h
      obtain hws | hws := hscheme <;> · rw [hws] at hk; cases hk
    | special =>
      rw [hk] at h
      obtain rfl := keeps_withAuthority _ _ _ h
      exact ⟨rest, rfl, h⟩

theorem parse_of_scheme {text scheme : String} {rest : List Char}
    (h : scheme? (cleaned text.toList) = some (scheme, rest)) (hscheme : scheme = "ws" ∨ scheme = "wss") :
    parse text = withAuthority scheme .special (rest.dropWhile isFileSlash) := by
  rw [parse]
  simp only [h]
  obtain rfl | rfl := hscheme <;> rfl

/-! ## the port that is addressed -/

/-- The port that is named behind a host, which is the one of the scheme if none is. -/
def portNamed (scheme : String) (digits : List Char) : Option UInt16 :=
  if digits = [] then defaultPort? scheme else (readDecimal UInt16.size digits).map Nat.toUInt16

theorem readPort_ok {scheme : String} {digits left : List Char} {port : Option UInt16} (hd : Inner digits) (hy : Ends y)
    (h : readPort scheme (digits ++ y) = .ok (port, left)) :
    digits.all Char.isDigit = true ∧ (port.orElse fun _ => defaultPort? scheme) = portNamed scheme digits := by
  rw [readPort_append scheme hd hy] at h
  split at h
  · refine ⟨‹_›, ?_⟩
    rw [portNamed]
    split at h
    · cases h
      rw [if_pos ‹_›]
      rfl
    · rw [if_neg ‹_›]
      cases hn : readDecimal UInt16.size digits with
      | none =>
        rw [hn] at h
        cases h
      | some n =>
        simp only [hn] at h
        by_cases hdefault : defaultPort? scheme = some n.toUInt16
        · rw [if_pos hdefault] at h
          cases h
          exact hdefault
        · rw [if_neg hdefault] at h
          cases h
          rfl
  · cases h

/-- The port of a URL is what stands between its host and the end of its authority, and nothing else. -/
theorem port_of_withAuthority {scheme : String} {u : Url} (h : withAuthority scheme .special s = .ok u) :
    ((portText (authority s)).drop 1).all Char.isDigit = true ∧
      u.effectivePort? = portNamed scheme ((portText (authority s)).drop 1) := by
  obtain ⟨rfl, -, left, hport⟩ := withAuthority_ok h
  obtain hnone | ⟨digits, hdigits, hinner⟩ := portText_cases (inner_authority s)
  · rw [hnone, List.nil_append, portBehind_of_ne] at hport
    · rw [hnone, effectivePort?, ← (Prod.mk.inj (Except.ok.inj hport)).1]
      exact ⟨rfl, rfl⟩
    · intro digits hb
      have hc := ends_behind s ':' (by rw [hb]; rfl)
      exact absurd hc (by decide)
  · rw [hdigits] at hport ⊢
    exact readPort_ok hinner (ends_behind s) hport

/-- With a host and a port in range there is a URL. -/
theorem exists_withAuthority {scheme : String} {host : Host} {digits : List Char} {n : Nat}
    (hhost : Host.special (hostPart (authority s)) = .ok host) (hdigits : portText (authority s) = ':' :: digits)
    (hall : digits.all Char.isDigit = true) (hn : readDecimal UInt16.size digits = some n) :
    ∃ u, withAuthority scheme .special s = .ok u ∧ u.scheme = scheme := by
  have hinner : Inner digits := fun c hc => by
    cases he : endsAuthority .special c with
    | false => rfl
    | true =>
      have hdigit := List.all_eq_true.1 hall c hc
      rw [not_isDigit_of_endsAuthority he] at hdigit
      cases hdigit
  have hne : digits ≠ [] := by
    rintro rfl
    cases hn
  have hport : portBehind scheme (portText (authority s) ++ behind s) =
      .ok (if defaultPort? scheme = some n.toUInt16 then none else some n.toUInt16, behind s) := by
    rw [hdigits]
    refine (readPort_append scheme hinner (ends_behind s)).trans ?_
    rw [if_pos hall, if_neg hne, hn]
  exact withAuthority_of_ok hhost hport

end Url

end ProxyKeeper

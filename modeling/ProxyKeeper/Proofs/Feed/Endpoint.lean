/-
The port that a feed's address names.

An address is joined from the texts of the setting and read again as a URL, and nothing looks at what the port has
become. Where the texts leave the port in its place (`Aligned`), every address names the port it was made for. Where
they do not, the port that an address names is another one or the same for all, so that at most one is hit by chance.
-/
import ProxyKeeper.Feed.Endpoint
import ProxyKeeper.Proofs.Json.RoundTrip
import ProxyKeeper.Proofs.Toml.Values
import ProxyKeeper.Proofs.Url.Authority

namespace ProxyKeeper.Feed.Endpoint

open Url Text

variable {e : Endpoint} {port port' : UInt16} {url url' : Url}

/-! ## the texts as they count -/

def schemeText (e : Endpoint) : List Char := kept (trimmedStart e.scheme.toList)

/-- The text of the host, without the slashes that only add to those in front of it. -/
def hostText (e : Endpoint) : List Char := (kept e.host.toList).dropWhile isFileSlash

def pathText (e : Endpoint) : List Char := kept (trimmedEnd e.path.toList)

def portDigits (port : UInt16) : List Char := Nat.toDigits 10 port.toNat

/-- The text behind the colon of the scheme. -/
def fromSlashes (e : Endpoint) (port : UInt16) : List Char :=
  '/' :: '/' :: kept e.host.toList ++ (':' :: portDigits port ++ e.pathText)

/-- The text from the host on. -/
def fromHost (e : Endpoint) (port : UInt16) : List Char := e.hostText ++ (':' :: portDigits port ++ e.pathText)

theorem isDigit_of_mem_portDigits {c : Char} (h : c ∈ portDigits port) : c.isDigit = true :=
  Nat.isDigit_of_mem_toDigits (by decide) (by decide) h

theorem portDigits_ne_nil : portDigits port ≠ [] := Nat.toDigits_ne_nil

theorem not_mem_portDigits {c : Char} (h : c.isDigit = false) : c ∉ portDigits port := fun hm => by
  rw [isDigit_of_mem_portDigits hm] at h
  cases h

theorem not_blank_of_isDigit {c : Char} (h : c.isDigit = true) : (c ≤ ' ') = False := by
  simp only [eq_iff_iff, iff_false]
  intro hle
  simp only [Char.isDigit, Bool.and_eq_true, decide_eq_true_eq] at h
  have hle : c.val ≤ 32 := hle
  have hge : 48 ≤ c.val := h.1
  exact absurd (Nat.le_trans (UInt32.le_iff_toNat_le.1 hge) (UInt32.le_iff_toNat_le.1 hle)) (by decide)

/-- A port with its colon holds none but the colon and digits. -/
theorem not_mem_port {c : Char} (hcolon : c ≠ ':') (h : c.isDigit = false) : c ∉ ':' :: portDigits port := fun hm =>
  (List.mem_cons.1 hm).elim hcolon (not_mem_portDigits h)

theorem kept_portDigits : kept (portDigits port) = portDigits port :=
  List.filter_eq_self.2 fun c hc => by
    have hne : ∀ d : Char, d.isDigit = false → c ≠ d := fun d hd he => not_mem_portDigits hd (he ▸ hc)
    simp [hne '\t' (by decide), hne '\n' (by decide), hne '\r' (by decide)]

theorem toList_textFor (e : Endpoint) (port : UInt16) :
    (e.textFor port).toList =
      e.scheme.toList ++ ':' :: ('/' :: '/' :: e.host.toList ++ ':' :: portDigits port) ++ e.path.toList := by
  have hport : (toString port).toList = portDigits port := by
    show (toString port.toNat).toList = _
    rw [Nat.toString_eq_ofList_toDigits, String.toList_ofList]
    rfl
  have htext : ∀ s : String, toString s = s := fun _ => rfl
  simp [textFor, hport, htext]

/-- Nothing is lost around the port: blanks are, in front of the scheme and behind the path. -/
theorem cleaned_textFor (e : Endpoint) (port : UInt16) :
    cleaned (e.textFor port).toList = e.schemeText ++ ':' :: e.fromSlashes port := by
  obtain hnil | ⟨front, last, hdigits⟩ := List.eq_nil_or_concat (portDigits port)
  · exact absurd hnil portDigits_ne_nil
  have hmem : last ∈ portDigits port := by simp [hdigits]
  have hblank := not_blank_of_isDigit (isDigit_of_mem_portDigits hmem)
  have hmiddle : ':' :: ('/' :: '/' :: e.host.toList ++ ':' :: portDigits port) ++ e.path.toList =
      ':' :: ('/' :: '/' :: e.host.toList ++ ':' :: front) ++ last :: e.path.toList := by
    simp [hdigits]
  rw [toList_textFor, List.append_assoc, hmiddle, ← List.append_assoc,
    cleaned_append_cons (by decide) hblank]
  have hkept : kept (':' :: ('/' :: '/' :: e.host.toList ++ ':' :: front) ++ [last]) =
      ':' :: '/' :: '/' :: kept e.host.toList ++ ':' :: portDigits port := by
    rw [← kept_portDigits, hdigits]
    simp [kept]
  rw [hkept]
  simp [schemeText, fromSlashes, pathText]

/-! ## where the port stands -/

/-- The texts of an endpoint leave the port in its place. -/
structure Aligned (e : Endpoint) : Prop where
  scheme : ':' ∉ e.schemeText
  /-- Nothing in the host ends the authority. -/
  host : Inner e.hostText
  /-- No bracket is open behind the host, and no colon in it is outside of brackets. -/
  closed : brackets false (address e.hostText) = some false
  /-- A path starts, if it is not empty, with what ends the authority. -/
  path : Ends e.pathText

instance (e : Endpoint) : Decidable e.Aligned :=
  decidable_of_iff
    (':' ∉ e.schemeText ∧ Inner e.hostText ∧ brackets false (address e.hostText) = some false ∧ Ends e.pathText)
    ⟨fun h => ⟨h.1, h.2.1, h.2.2.1, h.2.2.2⟩, fun h => ⟨h.1, h.2, h.3, h.4⟩⟩

theorem inner_port (port : UInt16) : Inner (':' :: portDigits port) := by
  intro c hc
  obtain rfl | hc := List.mem_cons.1 hc
  · decide
  · cases he : endsAuthority .special c with
    | false => rfl
    | true => exact absurd hc (not_mem_portDigits (not_isDigit_of_endsAuthority he))

theorem authority_fromHost (h : Inner e.hostText) (port : UInt16) :
    authority (e.fromHost port) = e.hostText ++ (':' :: portDigits port ++ authority e.pathText) := by
  rw [fromHost, authority_append_of_inner h, authority_append_of_inner (inner_port port)]

theorem address_fromHost (h : Inner e.hostText) (hat : '@' ∉ authority e.pathText) (port : UInt16) :
    address (authority (e.fromHost port)) = address e.hostText ++ (':' :: portDigits port ++ authority e.pathText) := by
  rw [authority_fromHost h]
  refine address_append_of_not_mem fun hm => ?_
  exact (List.mem_append.1 hm).elim (not_mem_port (by decide) (by decide)) hat

/-- Behind the host the port is in its place, in a place where it cannot be read, or not in the place of a port. -/
theorem portText_fromHost (e : Endpoint) :
    (Inner e.hostText ∧ brackets false (address e.hostText) = some false ∧
        ∀ port, portText (authority (e.fromHost port)) = ':' :: (portDigits port ++ authority e.pathText)) ∨
      (∀ port, ((portText (authority (e.fromHost port))).drop 1).all Char.isDigit = false) ∨
      ∃ t, ∀ port, portText (authority (e.fromHost port)) = t := by
  by_cases hinner : Inner e.hostText
  · have hauthority := authority_fromHost hinner
    by_cases hat : '@' ∈ authority e.pathText
    · -- all in front of the last `@` is user information, the port with it
      refine .inr (.inr ⟨portText (authority e.pathText), fun port => ?_⟩)
      rw [hauthority, ← List.append_assoc, portText, portText, address_append_of_mem hat]
    · have haddress := address_fromHost hinner hat
      cases hb : brackets false (address e.hostText) with
      | none =>
        obtain ⟨front, behind, -, hhost⟩ := hostText_append_of_none (inner_address hinner) hb
        -- the port is behind another colon, and that is no digit
        refine .inr (.inl fun port => ?_)
        rw [portText, haddress, hhost]
        simp
      | some inside =>
        have hhost := fun port => hostText_append_of_some (y := ':' :: portDigits port ++ authority e.pathText)
          (inner_address hinner) hb
        cases inside with
        | false =>
          refine .inl ⟨hinner, rfl, fun port => ?_⟩
          rw [portText, haddress, hhost]
          rfl
        | true =>
          refine .inr (.inr ⟨(Url.hostText .special true (authority e.pathText)).2, fun port => ?_⟩)
          have hopen : brackets true (':' :: portDigits port) = some true :=
            brackets_of_not_mem (not_mem_port (by decide) (by decide))
          rw [portText, haddress, hhost, hostText_append_of_some (inner_port port) hopen]
  · refine .inr (.inr ⟨portText (authority e.hostText), fun port => ?_⟩)
    rw [fromHost, authority_append_of_not_inner hinner]

theorem portText_of_aligned (h : e.Aligned) (port : UInt16) :
    portText (authority (e.fromHost port)) = ':' :: portDigits port ∧
      hostPart (authority (e.fromHost port)) = address e.hostText := by
  obtain ⟨-, hinner, hb, hends⟩ := h
  have hnil := authority_eq_nil.2 hends
  have haddress := address_fromHost hinner (by simp [hnil]) port
  rw [hnil, List.append_nil] at haddress
  rw [portText, hostPart, haddress, hostText_append_of_some (inner_address hinner) hb]
  exact ⟨rfl, List.append_nil _⟩

/-! ## the port of an address -/

theorem urlFor_ok (h : e.urlFor port = .ok url) :
    port ≠ 0 ∧ (url.scheme = "ws" ∨ url.scheme = "wss") ∧ parse (e.textFor port) = .ok url := by
  rw [urlFor] at h
  split at h
  · cases h
  · cases hparse : parse (e.textFor port) with
    | error cause =>
      rw [hparse] at h
      cases h
    | ok u =>
      simp only [hparse] at h
      split at h
      · cases h
        exact ⟨‹_›, ‹_›, rfl⟩
      · cases h

/-- The scheme in front of the first colon, and the authority behind the slashes that follow it. -/
theorem urlFor_readAs (h : e.urlFor port = .ok url) :
    ∃ name rest, cutAt ':' (e.schemeText ++ ':' :: e.fromSlashes port) = some (name, rest) ∧
      url.scheme = .ofList (name.map Char.toLower) ∧
      withAuthority url.scheme .special (rest.dropWhile isFileSlash) = .ok url := by
  obtain ⟨-, hscheme, hparse⟩ := urlFor_ok h
  obtain ⟨rest, hread, hurl⟩ := parse_eq_ok hparse hscheme
  obtain ⟨name, hcut, hname⟩ := scheme?_eq_some hread
  rw [cleaned_textFor] at hcut
  exact ⟨name, rest, hcut, hname, hurl⟩

theorem dropWhile_fromSlashes (e : Endpoint) (port : UInt16) :
    (e.fromSlashes port).dropWhile isFileSlash = e.fromHost port := by
  rw [fromSlashes, List.cons_append, List.cons_append, List.dropWhile_cons_of_pos (by decide),
    List.dropWhile_cons_of_pos (by decide), List.cons_append, dropWhile_append_cons (by decide)]
  rfl

theorem urlFor_of_not_mem (h : e.urlFor port = .ok url) (hcolon : ':' ∉ e.schemeText) :
    url.scheme = .ofList (e.schemeText.map Char.toLower) ∧
      withAuthority url.scheme .special (e.fromHost port) = .ok url := by
  obtain ⟨name, rest, hcut, hname, hurl⟩ := urlFor_readAs h
  rw [cutAt_append_of_not_mem hcolon, cutAt, if_pos rfl, Option.map_some, List.append_nil] at hcut
  obtain ⟨rfl, rfl⟩ := Prod.mk.inj (Option.some.inj hcut)
  rw [dropWhile_fromSlashes] at hurl
  exact ⟨hname, hurl⟩

/-- With a colon in the scheme the slashes behind it end the authority. -/
theorem urlFor_of_mem (e : Endpoint) (hcolon : ':' ∈ e.schemeText) : ∃ scheme a, ∀ port url, e.urlFor port = .ok url →
    url.scheme = scheme ∧ ∃ s, authority s = a ∧ withAuthority scheme .special s = .ok url := by
  obtain ⟨⟨front, behind⟩, hfront⟩ := Option.ne_none_iff_exists'.1 fun hn => cutAt_eq_none_iff.1 hn hcolon
  refine ⟨.ofList (front.map Char.toLower), authority (behind.dropWhile isFileSlash ++ [':', '/']),
    fun port url h => ?_⟩
  obtain ⟨name, rest, hcut, hname, hurl⟩ := urlFor_readAs h
  rw [cutAt_append_of_mem hcolon, hfront] at hcut
  obtain ⟨rfl, rfl⟩ := Prod.mk.inj (Option.some.inj hcut)
  rw [dropWhile_append_cons (by decide)] at hurl
  refine ⟨hname, _, ?_, hname ▸ hurl⟩
  have hend : ¬Inner (behind.dropWhile isFileSlash ++ [':', '/']) := fun hi =>
    absurd (hi '/' (by simp)) (by decide)
  have hauthority := authority_append_of_not_inner (y := (e.fromSlashes port).tail) hend
  simpa [fromSlashes] using hauthority

theorem readDecimal_portDigits {more : List Char} (h : more.all Char.isDigit = true) :
    readDecimal UInt16.size (portDigits port ++ more) =
      (some (Nat.ofDigitChars 10 more port.toNat)).filter (· < UInt16.size) := by
  have hdigits : Toml.Digits (portDigits port ++ more) := fun c hc =>
    (List.mem_append.1 hc).elim isDigit_of_mem_portDigits (List.all_eq_true.1 h c)
  have hne : portDigits port ++ more ≠ [] := fun hn => portDigits_ne_nil (List.append_eq_nil_iff.1 hn).1
  rw [readDecimal, hdigits.readDigits hne, Nat.ofDigitChars_append, portDigits, Nat.ofDigitChars_ten_toDigits]

theorem readDecimal_port (port : UInt16) : readDecimal UInt16.size (portDigits port) = some port.toNat := by
  have hn := @readDecimal_portDigits port [] rfl
  rw [List.append_nil] at hn
  rw [hn]
  simp [Option.filter, port.toNat_lt_size]

theorem portNamed_port (scheme : String) (port : UInt16) : portNamed scheme (portDigits port) = some port := by
  rw [portNamed, if_neg portDigits_ne_nil, readDecimal_port]
  simp

/-- Digits behind the port make it another one. -/
theorem portNamed_ne {more : List Char} (hall : more.all Char.isDigit = true) (hmore : more ≠ []) (hport : port ≠ 0)
    (scheme : String) : portNamed scheme (portDigits port ++ more) ≠ some port := by
  have hlt : port.toNat < Nat.ofDigitChars 10 more port.toNat := by
    obtain ⟨c, rest, rfl⟩ := List.exists_cons_of_ne_nil hmore
    have hpos : port.toNat ≠ 0 := fun h => hport (UInt16.toNat_inj.1 h)
    have hle := Json.le_ofDigitChars rest (10 * port.toNat + (c.toNat - '0'.toNat))
    rw [Nat.ofDigitChars_cons]
    omega
  rw [portNamed, if_neg fun hn => portDigits_ne_nil (List.append_eq_nil_iff.1 hn).1, readDecimal_portDigits hall]
  intro h
  obtain ⟨n, hn, hn'⟩ := Option.map_eq_some_iff.1 h
  obtain ⟨hsome, hbound⟩ := Option.filter_eq_some_iff.1 hn
  cases hsome
  have hmod : Nat.ofDigitChars 10 more port.toNat % UInt16.size = port.toNat := congrArg UInt16.toNat hn'
  rw [Nat.mod_eq_of_lt (by simpa using hbound)] at hmod
  omega

theorem effectivePort_of_aligned (haligned : e.Aligned) (h : e.urlFor port = .ok url) :
    url.effectivePort? = some port := by
  obtain ⟨-, hurl⟩ := urlFor_of_not_mem h haligned.scheme
  rw [(port_of_withAuthority hurl).2, (portText_of_aligned haligned port).1]
  exact portNamed_port url.scheme port

/-- Where the port is not in its place, what is read as a port is the same for all, or another one for each. -/
theorem port_unique_of_not_aligned (hnot : ¬e.Aligned) (h : e.urlFor port = .ok url) (h' : e.urlFor port' = .ok url')
    (hport : url.effectivePort? = some port) (hport' : url'.effectivePort? = some port') : port = port' := by
  by_cases hcolon : ':' ∈ e.schemeText
  · obtain ⟨scheme, a, hread⟩ := urlFor_of_mem e hcolon
    obtain ⟨-, s, hs, hurl⟩ := hread port url h
    obtain ⟨-, s', hs', hurl'⟩ := hread port' url' h'
    rw [(port_of_withAuthority hurl).2, hs] at hport
    rw [(port_of_withAuthority hurl').2, hs'] at hport'
    exact Option.some.inj (hport.symm.trans hport')
  · obtain ⟨hscheme, hurl⟩ := urlFor_of_not_mem h hcolon
    obtain ⟨hscheme', hurl'⟩ := urlFor_of_not_mem h' hcolon
    obtain ⟨hdigits, hnamed⟩ := port_of_withAuthority hurl
    obtain ⟨-, hnamed'⟩ := port_of_withAuthority hurl'
    obtain ⟨hinner, hb, htext⟩ | hnever | ⟨t, ht⟩ := portText_fromHost e
    · -- the path goes on with digits, so that the number that is read is not the port
      have hmore : authority e.pathText ≠ [] := fun hnil => hnot ⟨hcolon, hinner, hb, authority_eq_nil.1 hnil⟩
      rw [htext] at hdigits hnamed
      rw [List.drop_one, List.tail_cons, List.all_append, Bool.and_eq_true] at hdigits
      rw [hnamed] at hport
      exact absurd hport (portNamed_ne hdigits.2 hmore (urlFor_ok h).1 _)
    · rw [hnever] at hdigits
      cases hdigits
    · rw [hnamed, ht, hscheme] at hport
      rw [hnamed', ht, hscheme'] at hport'
      exact Option.some.inj (hport.symm.trans hport')

/-- **A port is addressed where the texts leave it in its place.** Whatever scheme, host and path an endpoint has, its
addresses have a feed scheme. If the port is in its place, each of them names the port it was made for; if it is not,
at most one port is addressed by the address that is made for it. -/
theorem port_is_addressed_in_its_place (e : Endpoint) :
    (∀ port url, e.urlFor port = .ok url → url.scheme = "ws" ∨ url.scheme = "wss") ∧
      (e.Aligned → ∀ port url, e.urlFor port = .ok url → url.effectivePort? = some port) ∧
      (¬e.Aligned → ∀ port url port' url', e.urlFor port = .ok url → e.urlFor port' = .ok url' →
        url.effectivePort? = some port → url'.effectivePort? = some port' → port = port') :=
  ⟨fun _ _ h => (urlFor_ok h).2.1, fun haligned _ _ => effectivePort_of_aligned haligned,
    fun hnot _ _ _ _ => port_unique_of_not_aligned hnot⟩

/-- The endpoint of the defaults leaves the port in its place. -/
example : Aligned {} := by decide +kernel

/-- A path that starts with a digit moves the port from 3010 to 30100. -/
theorem port_runs_into_the_path :
    let e : Endpoint := { host := "[::1]", path := "0/x" }
    ∃ url, e.urlFor 3010 = .ok url ∧ url.effectivePort? = some 30100 := by
  intro e
  have htext : e.textFor 3010 = "ws://[::1]:30100/x" := by decide +kernel
  have hscheme : scheme? (cleaned "ws://[::1]:30100/x".toList) = some ("ws", "//[::1]:30100/x".toList) := by
    decide +kernel
  have hparse : ∃ url, parse (e.textFor 3010) = .ok url ∧ url.scheme = "ws" ∧ url.effectivePort? = some 30100 := by
    rw [htext, parse_of_scheme hscheme (.inl rfl)]
    exact ⟨_, rfl, rfl, rfl⟩
  obtain ⟨url, hurl, hws, hport⟩ := hparse
  refine ⟨url, ?_, hport⟩
  rw [urlFor, if_neg (by decide), hurl]
  simp [hws]

/-! ## endpoints that have addresses -/

/-- A scheme of feeds, in whatever case it is written. -/
def IsFeedScheme (name : List Char) : Prop :=
  String.ofList (name.map Char.toLower) = "ws" ∨ String.ofList (name.map Char.toLower) = "wss"

/-- An endpoint names a scheme of feeds and a host. -/
structure Names (e : Endpoint) : Prop where
  scheme : IsFeedScheme e.schemeText
  host : ∃ host, Host.special (address e.hostText) = .ok host

/-- What is no capital letter is as it is in small letters. -/
theorem isAlpha_of_toLower {c : Char} (h : c.toLower.isAlpha = true) : c.isAlpha = true := by
  by_cases hcapital : 'A'.val ≤ c.val ∧ c.val ≤ 'Z'.val
  · exact Bool.or_eq_true_iff.2 (.inl (decide_eq_true hcapital))
  · have hsame : c.toLower = c := dif_neg hcapital
    rwa [hsame] at h

theorem IsFeedScheme.isAlpha {name : List Char} (h : IsFeedScheme name) :
    name ≠ [] ∧ ∀ c ∈ name, c.isAlpha = true := by
  have hlist : name.map Char.toLower = ['w', 's'] ∨ name.map Char.toLower = ['w', 's', 's'] :=
    Or.imp (fun h => by simpa using congrArg String.toList h) (fun h => by simpa using congrArg String.toList h) h
  refine ⟨by rintro rfl; simp at hlist, fun c hc => ?_⟩
  refine isAlpha_of_toLower ?_
  have hmem : c.toLower ∈ name.map Char.toLower := List.mem_map_of_mem hc
  obtain hlist | hlist := hlist <;>
  · rw [hlist] at hmem
    simp at hmem
    obtain hc | hc := hmem <;> · rw [hc]; decide

/-- With the port in its place, whether there is an address does not depend on the port, unless that is 0. -/
theorem exists_urlFor_iff (h : e.Aligned) : (∃ url, e.urlFor port = .ok url) ↔ port ≠ 0 ∧ e.Names := by
  obtain ⟨htext, hhost⟩ := portText_of_aligned h port
  constructor
  · rintro ⟨url, hurl⟩
    obtain ⟨hport, hscheme, -⟩ := urlFor_ok hurl
    obtain ⟨hname, hread⟩ := urlFor_of_not_mem hurl h.scheme
    obtain ⟨-, hspecial, -⟩ := withAuthority_ok hread
    rw [hhost] at hspecial
    rw [hname] at hscheme
    exact ⟨hport, ⟨hscheme, hspecial⟩⟩
  · rintro ⟨hport, ⟨hscheme, host, hspecial⟩⟩
    obtain ⟨hne, halpha⟩ := hscheme.isAlpha
    have hread := scheme?_of_alpha hne halpha (e.fromSlashes port)
    rw [← cleaned_textFor] at hread
    obtain ⟨url, hurl, hname⟩ := exists_withAuthority (hhost ▸ hspecial) htext
      (List.all_eq_true.2 fun c hc => isDigit_of_mem_portDigits hc) (readDecimal_port port)
    have hparse : parse (e.textFor port) = .ok url := by
      rw [parse_of_scheme hread hscheme, dropWhile_fromSlashes]
      exact hurl
    have hws : url.scheme = "ws" ∨ url.scheme = "wss" := by rw [hname]; exact hscheme
    exact ⟨url, by rw [urlFor, if_neg hport, hparse]; simp [hws]⟩

end ProxyKeeper.Feed.Endpoint

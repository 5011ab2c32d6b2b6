import ProxyKeeper.Data.Number
import ProxyKeeper.Text.Digits
import ProxyKeeper.Json.Issue

/-!
The scalars of JSON text. `Cursor` is a place in a text; `scanString` and `scanNumber` read one
string or number from there.

A scalar can be passed over under weaker rules than it can be used: who only passes over a number
does not ask whether it is in range, and who passes over a string does not pair its surrogates. A
`Scan` holds both answers.
-/

namespace ProxyKeeper.Json

open Data

/-- What is left of a text, and how many bytes stand in front of it. -/
structure Cursor where
  rest : List Char
  offset : Nat

namespace Cursor

/-- An issue at the place of the cursor. -/
def here (c : Cursor) (d : Defect) : Issue := ⟨d, c.offset⟩

/-- An issue with the next byte. -/
def next (c : Cursor) (d : Defect) : Issue :=
  ⟨d, if c.rest.isEmpty then c.offset else c.offset + 1⟩

def isBlank (c : Char) : Bool := c = ' ' || c = '\n' || c = '\t' || c = '\r'

/-- Blanks are one byte each, so the offset moves by their number. -/
def skipBlank (c : Cursor) : Cursor :=
  ⟨c.rest.dropWhile isBlank, c.offset + (c.rest.takeWhile isBlank).length⟩

/-- Passes over `n` characters of one byte. -/
def ahead (c : Cursor) (n : Nat) : Cursor := ⟨c.rest.drop n, c.offset + n⟩

end Cursor

/-- What reading a scalar comes to: the first issue of a reader who uses it, and what it is for one
who passes over it. -/
structure Scan (α : Type) where
  used : Option Issue
  outcome : Except Issue (α × Cursor)

/-! ## literals -/

/-- The letters of a literal behind its first; each wrong character is consumed by a byte. -/
def scanIdent : List Char → Cursor → Except Issue Cursor
  | [], c => .ok c
  | l :: letters, c =>
    match c.rest with
    | [] => .error (c.here .endInValue)
    | x :: _ =>
      if x = l then scanIdent letters (c.ahead 1)
      else .error ⟨.wantsIdent, c.offset + 1⟩

/-! ## strings -/

/-- The sixteen bits that four hexadecimal digits stand for. -/
def hexUnit? (a b c d : Char) : Option Nat := do
  let w ← Text.digitValue? a
  let x ← Text.digitValue? b
  let y ← Text.digitValue? c
  let z ← Text.digitValue? d
  return ((w * 16 + x) * 16 + y) * 16 + z

/-- Why the four bytes at this place are no four hexadecimal digits. -/
def hexIssue (rest : List Char) (offset : Nat) : Issue :=
  let left := (String.ofList rest).utf8ByteSize
  if left < 4 then ⟨.endInString, offset + left⟩ else ⟨.badEscape, offset + 4⟩

def isLeading (n : Nat) : Bool := 0xD800 ≤ n && n ≤ 0xDBFF

def isTrailing (n : Nat) : Bool := 0xDC00 ≤ n && n ≤ 0xDFFF

/-- The code point that a leading and a trailing surrogate stand for. -/
def joinSurrogates (high low : Nat) : Nat := (high - 0xD800) * 0x400 + (low - 0xDC00) + 0x10000

/-- The character that a letter behind a backslash stands for. -/
def escaped? : Char → Option Char
  | '"' => some '"'
  | '\\' => some '\\'
  | '/' => some '/'
  | 'b' => some '\x08'
  | 'f' => some '\x0c'
  | 'n' => some '\n'
  | 'r' => some '\r'
  | 't' => some '\t'
  | _ => none

/-- Ends a scan at an issue for every reader. -/
def Scan.stop {α : Type} (flaw : Option Issue) (issue : Issue) : Scan α :=
  ⟨flaw.orElse fun _ => some issue, .error issue⟩

/-- The issue of a leading surrogate in front of `rest` that no trailing one follows. There is none
either where the text breaks off in a way that every reader complains about. -/
def unpaired : List Char → Nat → Option Issue
  | '\\' :: 'u' :: a :: b :: c :: d :: _, offset =>
    if (hexUnit? a b c d).all isTrailing then none else some ⟨.loneSurrogate, offset + 6⟩
  | '\\' :: 'u' :: _, _ => none
  | '\\' :: _ :: _, offset => some ⟨.unfinishedSurrogate, offset + 2⟩
  | ['\\'], _ | [], _ => none
  | _ :: _, offset => some ⟨.unfinishedSurrogate, offset + 1⟩

/-- Reads a string behind its opening quote; `high` is a leading surrogate that the next escape
completes, `done` are the characters read, the last first, and `flaw` is the first issue that only
a user of the string would have. -/
def scanString : List Char → Nat → Option Nat → List Char → Option Issue → Scan String
  | [], offset, _, _, flaw => .stop flaw ⟨.endInString, offset⟩
  | '"' :: rest, offset, _, done, flaw => ⟨flaw, .ok (.ofList done.reverse, ⟨rest, offset + 1⟩)⟩
  | ['\\'], offset, _, _, flaw => .stop flaw ⟨.endInString, offset + 1⟩
  | '\\' :: 'u' :: a :: b :: c :: d :: rest, offset, high, done, flaw =>
    match hexUnit? a b c d with
    | none => .stop flaw (hexIssue (a :: b :: c :: d :: rest) (offset + 2))
    | some n =>
      if isTrailing n then
        match high with
        | some h => scanString rest (offset + 6) none (Char.ofNat (joinSurrogates h n) :: done) flaw
        | none =>
          scanString rest (offset + 6) none done
            (flaw.orElse fun _ => some ⟨.loneSurrogate, offset + 6⟩)
      else if isLeading n then
        match unpaired rest (offset + 6) with
        | none => scanString rest (offset + 6) (some n) done flaw
        | some issue => scanString rest (offset + 6) none done (flaw.orElse fun _ => some issue)
      else scanString rest (offset + 6) none (Char.ofNat n :: done) flaw
  | '\\' :: 'u' :: rest, offset, _, _, flaw => .stop flaw (hexIssue rest (offset + 2))
  | '\\' :: x :: rest, offset, _, done, flaw =>
    match escaped? x with
    | none => .stop flaw ⟨.badEscape, offset + 2⟩
    | some y => scanString rest (offset + 2) none (y :: done) flaw
  | x :: rest, offset, _, done, flaw =>
    if x.toNat < 0x20 then
      ⟨flaw.orElse fun _ => some ⟨.controlCharacter, offset + 1⟩, .error ⟨.controlCharacter, offset⟩⟩
    else scanString rest (offset + x.utf8Size) none (x :: done) flaw

/-! ## numbers -/

/-- The digits of a number as they are written. -/
structure NumberText where
  negative : Bool
  whole : List Char
  fraction : List Char
  /-- The sign of the exponent, true for minus, and its digits. -/
  exponent : Option (Bool × List Char)
  /-- Whether there is a point. -/
  pointed : Bool

def digitValue (c : Char) : Nat := c.toNat - '0'.toNat

/-- Takes digits into a significand as long as it stays below the bound; the digits left over. -/
def absorb (bound : Nat) : List Char → Nat → Nat × List Char
  | [], n => (n, [])
  | c :: rest, n =>
    if 10 * n + digitValue c < bound then absorb bound rest (10 * n + digitValue c)
    else (n, c :: rest)

/-- The largest power of ten that one step scales by. -/
def stepPower : Nat := 308

/-- `f · 10^e` by correctly rounded steps, none when the result is out of range. -/
def scaleFloat : Nat → Float → Int → Option Float
  | 0, f, _ => some f
  | fuel + 1, f, e =>
    if e.natAbs ≤ stepPower then
      let power := Float.ofScientific 1 false e.natAbs
      if 0 ≤ e then
        let scaled := f * power
        if scaled.isInf then none else some scaled
      else some (f / power)
    else if f == 0.0 then some f
    else if 0 ≤ e then none
    else scaleFloat fuel (f / Float.ofScientific 1 false stepPower) (e + stepPower)

/-- The binary number `± significand · 10^e`. -/
def floatOf (negative : Bool) (significand : Nat) (e : Int) : Option Number :=
  (scaleFloat (e.natAbs / stepPower + 1) significand.toUInt64.toFloat e).map fun f =>
    .float (if negative then -f else f).toBits

/-- What a written number comes to: its value, or the number of exponent digits after which it is
known to be out of range (all of them, if that shows only at the end). -/
def NumberText.value (t : NumberText) : Except Nat Number :=
  let (significand, dropped) := absorb naturalBound t.whole 0
  if !t.pointed && t.exponent.isNone && dropped.isEmpty then
    if !t.negative then .ok (.natural significand)
    else if significand = 0 ∨ negativeBound < significand then
      .ok (.float (-significand.toUInt64.toFloat).toBits)
    else .ok (.integer (-significand))
  else
    let (significand, unread) := absorb naturalBound t.fraction significand
    let start : Int := dropped.length - (t.fraction.length - unread.length : Nat)
    let outcome (e : Int) (count : Nat) : Except Nat Number :=
      match floatOf t.negative significand e with
      | some n => .ok n
      | none => .error count
    match t.exponent with
    | none => outcome start 0
    | some (minus, digits) =>
      let (e, unread) := absorb 0x80000000 digits 0
      if unread.isEmpty then outcome (if minus then start - e else start + e) digits.length
      else if significand ≠ 0 ∧ !minus then .error (digits.length - unread.length + 1)
      else .ok (.float (if t.negative then (-0.0 : Float) else 0.0).toBits)

/-- Reads a number from its sign or first digit. -/
def scanNumber (c : Cursor) : Scan Number :=
  let negative := c.rest.head? == some '-'
  let c := if negative then c.ahead 1 else c
  match c.rest with
  | [] => ⟨some (c.here .endInValue), .error (c.here .badNumber)⟩
  | first :: rest =>
    if !first.isDigit then .stop none ⟨.badNumber, c.offset + 1⟩
    else if first = '0' && (rest.head?.any Char.isDigit) then .stop none ⟨.badNumber, c.offset + 2⟩
    else
      let whole := c.rest.takeWhile Char.isDigit
      let c := c.ahead whole.length
      let pointed := c.rest.head? == some '.'
      let c := if pointed then c.ahead 1 else c
      let fraction := if pointed then c.rest.takeWhile Char.isDigit else []
      if pointed && fraction.isEmpty then
        ⟨some (if c.rest.isEmpty then c.here .endInValue else c.next .badNumber),
          .error (c.next .badNumber)⟩
      else
        let c := c.ahead fraction.length
        if c.rest.head? == some 'e' || c.rest.head? == some 'E' then
          let c := c.ahead 1
          let minus := c.rest.head? == some '-'
          let c := if minus || c.rest.head? == some '+' then c.ahead 1 else c
          let digits := c.rest.takeWhile Char.isDigit
          if digits.isEmpty then
            ⟨some (if c.rest.isEmpty then c.here .endInValue else c.next .badNumber),
              .error (c.next .badNumber)⟩
          else finish ⟨negative, whole, fraction, some (minus, digits), pointed⟩ c digits.length
        else finish ⟨negative, whole, fraction, none, pointed⟩ c 0
where
  /-- `c` stands in front of the `count` digits of the exponent. -/
  finish (t : NumberText) (c : Cursor) (count : Nat) : Scan Number :=
    match t.value with
    | .ok n => ⟨none, .ok (n, c.ahead count)⟩
    | .error read =>
      ⟨some ⟨.numberOutOfRange, c.offset + read⟩, .ok (.natural 0, c.ahead count)⟩

end ProxyKeeper.Json

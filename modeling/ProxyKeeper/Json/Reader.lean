import ProxyKeeper.Json.Value
import ProxyKeeper.Json.Scan

/-!
Reading JSON text into a datum whose marks are byte offsets: behind a scalar, in front of a list or
a group of fields, behind the name of a member, behind a closing bracket.
-/

namespace ProxyKeeper.Json

open Data

abbrev Tree := Datum Nat Issue

/-- How deep lists and groups of fields may be nested in a tree that is used. -/
def depthLimit : Nat := 128

/-- A scalar as a datum, and the cursor behind it. -/
def Scan.leaf {α : Type} (s : Scan α) (make : Nat → α → Tree) : Tree × Option Cursor :=
  let (inner, behind) : Tree × Option Cursor :=
    match s.outcome with
    | .error issue => (.broken issue, none)
    | .ok (a, c) => (make c.offset a, some c)
  match s.used with
  | none => (inner, behind)
  | some issue => (.flawed issue inner, behind)

/-- Wraps what stands at `c` when no further nesting is allowed there. -/
def guardDepth (left : Nat) (c : Cursor) (t : Tree) : Tree :=
  if left ≤ 1 then .flawed (c.next .tooDeep) t else t

/-- An ending with one issue for every reader. -/
def sameEnding (issue : Issue) : Ending Nat Issue := .broken issue issue issue

mutual

/-- The value at `c`, in front of which there are no blanks. `left` is how many levels may still be
opened. -/
def value : Nat → Nat → Cursor → Tree × Option Cursor
  | 0, _, c => (.broken (c.next .wantsValue), none)
  | fuel + 1, left, c =>
    match c.rest with
    | [] => (.broken (c.next .endInValue), none)
    | x :: _ =>
      if x = 'n' then literal "ull".toList c .null
      else if x = 't' then literal "rue".toList c (.flag · true)
      else if x = 'f' then literal "alse".toList c (.flag · false)
      else if x = '"' then
        (scanString (c.rest.drop 1) (c.offset + 1) none [] none).leaf fun m s => .text m s
      else if x = '-' || x.isDigit then (scanNumber c).leaf fun m n => .number m n
      else if x = '[' then
        let (found, ending, behind) := items fuel (left - 1) (c.ahead 1).skipBlank true
        (guardDepth left c (.list c.offset found ending), behind)
      else if x = '\x7b' then
        let (found, ending, behind) := members fuel (left - 1) (c.ahead 1).skipBlank true
        (guardDepth left c (.fields c.offset found ending), behind)
      else (.broken (c.next .wantsValue), none)
where
  literal (letters : List Char) (c : Cursor) (make : Nat → Tree) : Tree × Option Cursor :=
    match scanIdent letters (c.ahead 1) with
    | .error issue => (.broken issue, none)
    | .ok c => (make c.offset, some c)

/-- The elements of a list from `c`, which has no blanks in front, up to the closing bracket. -/
def items : Nat → Nat → Cursor → Bool →
    List (Option Issue × Tree) × Ending Nat Issue × Option Cursor
  | 0, _, c, _ => ([], sameEnding (c.next .endInList), none)
  | fuel + 1, left, c, first =>
    match c.rest with
    | [] => ([], sameEnding (c.next .endInList), none)
    | x :: _ =>
      if x = ']' then ([], .closed (c.offset + 1), some (c.ahead 1))
      else if first then element fuel left c
      else if x = ',' then
        let c := (c.ahead 1).skipBlank
        match c.rest with
        | [] => ([], .broken (c.next .endInValue) (c.next .endInValue) (c.next .trailingCharacters), none)
        | y :: _ =>
          if y = ']' then
            ([], .broken (c.next .trailingComma) (c.next .wantsValue) (c.next .trailingComma), none)
          else element fuel left c
      else
        ([], .broken (c.next .wantsCommaOrListEnd) (c.next .wantsCommaOrListEnd)
          (c.next .trailingCharacters), none)

/-- One element and all behind it. -/
def element : Nat → Nat → Cursor →
    List (Option Issue × Tree) × Ending Nat Issue × Option Cursor
  | 0, _, c => ([], sameEnding (c.next .endInList), none)
  | fuel + 1, left, c =>
    let leaving := some (c.next .trailingCharacters)
    match value fuel left c with
    | (d, none) => ([(leaving, d)], .unreached, none)
    | (d, some behind) =>
      let (rest, ending, last) := items fuel left behind.skipBlank false
      ((leaving, d) :: rest, ending, last)

/-- The members of a group from `c`, which has no blanks in front, up to the closing brace. -/
def members : Nat → Nat → Cursor → Bool →
    List (Nat × Option Issue × String × Tree) × Ending Nat Issue × Option Cursor
  | 0, _, c, _ => ([], sameEnding (c.next .endInObject), none)
  | fuel + 1, left, c, first =>
    match c.rest with
    | [] => ([], sameEnding (c.next .endInObject), none)
    | x :: _ =>
      if x = '\x7d' then ([], .closed (c.offset + 1), some (c.ahead 1))
      else if first then
        if x = '"' then member fuel left c else ([], sameEnding (c.next .nameNotString), none)
      else if x = ',' then
        let c := (c.ahead 1).skipBlank
        match c.rest with
        | [] =>
          ([], .broken (c.next .endInValue) (c.next .endInObject) (c.next .endInValue), none)
        | y :: _ =>
          if y = '"' then member fuel left c
          else if y = '\x7d' then
            ([], .broken (c.next .trailingComma) (c.next .nameNotString) (c.next .trailingComma), none)
          else ([], sameEnding (c.next .nameNotString), none)
      else ([], sameEnding (c.next .wantsCommaOrObjectEnd), none)

/-- One member, from the quote of its name, and all behind it. -/
def member : Nat → Nat → Cursor →
    List (Nat × Option Issue × String × Tree) × Ending Nat Issue × Option Cursor
  | 0, _, c => ([], sameEnding (c.next .endInObject), none)
  | fuel + 1, left, c =>
    let name := scanString (c.rest.drop 1) (c.offset + 1) none [] none
    match name.outcome with
    | .error issue => ([], .broken (name.used.getD issue) issue issue, none)
    | .ok (text, behind) =>
      let c := behind.skipBlank
      let mark := if c.rest.head? == some '\x7d' then c.offset + 1 else c.offset
      match c.rest with
      | [] => ([(mark, name.used, text, .broken (c.next .endInObject))], .unreached, none)
      | x :: _ =>
        if x ≠ ':' then
          ([(mark, name.used, text, .broken (c.next .wantsColon))], .unreached, none)
        else
          match value fuel left (c.ahead 1).skipBlank with
          | (d, none) => ([(mark, name.used, text, d)], .unreached, none)
          | (d, some behind) =>
            let (rest, ending, last) := members fuel left behind.skipBlank false
            ((mark, name.used, text, d) :: rest, ending, last)

end

/-- A text as a tree, and the issue of text that goes on behind it. -/
structure Document where
  root : Tree
  surplus : Option Issue

/-- Reads a whole text. The fuel is enough: a step that does not consume a character is followed by
one that does. -/
def Document.read (text : List Char) : Document :=
  match value (3 * text.length + 3) depthLimit (Cursor.skipBlank ⟨text, 0⟩) with
  | (root, none) => ⟨root, none⟩
  | (root, some behind) =>
    let c := behind.skipBlank
    ⟨root, if c.rest.isEmpty then none else some (c.next .trailingCharacters)⟩

/-- A datum as a JSON value; what JSON cannot hold becomes null. -/
def ofDatum {κ ι : Type} : Datum κ ι → Json
  | .null _ => .null
  | .flag _ b => .bool b
  | .number _ n => .number n
  | .text _ s => .string s
  | .letter _ c => .string (String.singleton c)
  | .list _ items _ => .array (ofItems items)
  | .fields _ members _ => .object (ofMembers members)
  | .flawed _ _ | .broken _ => .null
where
  ofItems : List (Option ι × Datum κ ι) → List Json
    | [] => []
    | (_, d) :: rest => ofDatum d :: ofItems rest
  ofMembers : List (κ × Option ι × String × Datum κ ι) → List (String × Json)
    | [] => []
    | (_, _, name, d) :: rest => (name, ofDatum d) :: ofMembers rest

/-- The value that a whole text stands for. -/
def parse? (text : String) : Option Json :=
  let doc := Document.read text.toList
  match doc.root.plain, doc.surplus with
  | .ok d, none => some (ofDatum d)
  | _, _ => none

end ProxyKeeper.Json

import ProxyKeeper.Idna.MappingTable
import ProxyKeeper.Text.Digits
import ProxyKeeper.Text.Split

/-!
The mapping of domain names: capital letters become small, wide and styled forms become plain, and
what may not stand in a name is refused.
-/

namespace ProxyKeeper.Idna

/-- What becomes of the characters of a run. -/
inductive Fate where
  | kept
  | refused
  | dropped
  /-- By turns replaced by the next character and kept. -/
  | alternating
  /-- Replaced by the character as far behind `first` as they are behind the first of the run. -/
  | shifted (first : Nat)
  | replaced (text : List Char)
  deriving Repr

structure Run where
  length : Nat
  fate : Fate
  deriving Repr

/-! ## the table -/

/-- A number in hexadecimal. -/
def hexadecimal (s : List Char) : Nat := (Text.readDigits 16 s).getD 0

/-- The text whose code points are written with points between them. -/
def textOf (s : List Char) : List Char :=
  (Text.splitAt '.' s).map fun digits => Char.ofNat (hexadecimal digits)

/-- A run as the table has it. -/
def readRun : List Char → Run
  | [] => ⟨0, .refused⟩
  | kind :: rest =>
    let (count, target) := (Text.cutAt ':' rest).getD (rest, [])
    ⟨hexadecimal count,
      match kind with
      | 'v' => .kept
      | 'i' => .dropped
      | 'a' => .alternating
      | 's' => .shifted (hexadecimal target)
      | 'm' => .replaced (textOf target)
      | _ => .refused⟩

/-- The runs from code point 80 in hexadecimal on. -/
def runs : List Run := (Text.splitAt ' ' mappingTable.toList).map readRun

/-- The fate of the code point that lies so far behind the beginning of the runs, and how far it lies
behind the beginning of its own. -/
def findFate : List Run → Nat → Nat × Fate
  | [], _ => (0, .refused)
  | r :: rest, n => if n < r.length then (n, r.fate) else findFate rest (n - r.length)

/-! ## mapping -/

/-- What a character becomes. -/
def mapChar (c : Char) : Option (List Char) :=
  if c.toNat < 0x80 then some [c.toLower]
  else
    match findFate runs (c.toNat - 0x80) with
    | (_, .kept) => some [c]
    | (_, .refused) => none
    | (_, .dropped) => some []
    | (i, .alternating) => some [if i % 2 = 0 then Char.ofNat (c.toNat + 1) else c]
    | (i, .shifted first) => some [Char.ofNat (first + i)]
    | (_, .replaced text) => some text

/-- What a name becomes; one with a refused character becomes nothing. -/
def map? (s : List Char) : Option (List Char) := (s.mapM mapChar).map List.flatten

/-- Whether a character stays as it is. -/
def isKept (c : Char) : Bool := mapChar c == some [c]

end ProxyKeeper.Idna

import ProxyKeeper.Idna.CompositionTable
import ProxyKeeper.Idna.Mapping

/-!
The composed form of a text: every character is taken apart into its base and marks, the marks are
put in the order of their classes, and what can be composed is composed again. The syllables of
Hangul are composed by arithmetic.
-/

namespace ProxyKeeper.Idna

/-! ## tables -/

/-- A composed character and its two parts. -/
structure Pair where
  whole : Nat
  base : Nat
  mark : Nat

def readPair (word : List Char) : Pair :=
  let (whole, parts) := (Text.cutAt ':' word).getD (word, [])
  let (base, mark) := (Text.cutAt '.' parts).getD (parts, [])
  ⟨hexadecimal whole, hexadecimal base, hexadecimal mark⟩

def pairs : List Pair := (Text.splitAt ' ' pairTable.toList).map readPair

/-- The combining class of a character: zero for all that no other moves past. -/
def combiningClass (c : Char) : Nat :=
  ((classTable.find? fun (_, ranges) => ranges.contains c).map (·.1)).getD 0

/-! ## Hangul -/

def syllableBase : Nat := 0xAC00
def leadBase : Nat := 0x1100
def vowelBase : Nat := 0x1161
def trailBase : Nat := 0x11A7
def leadCount : Nat := 19
def vowelCount : Nat := 21
def trailCount : Nat := 28
def syllableCount : Nat := leadCount * vowelCount * trailCount

/-- The letters of a syllable. -/
def letters? (n : Nat) : Option (List Nat) :=
  if syllableBase ≤ n ∧ n < syllableBase + syllableCount then
    let i := n - syllableBase
    let lead := leadBase + i / (vowelCount * trailCount)
    let vowel := vowelBase + i / trailCount % vowelCount
    let trail := i % trailCount
    some ([lead, vowel] ++ if trail = 0 then [] else [trailBase + trail])
  else none

/-- The syllable of a lead and a vowel, or of such a syllable and a trail. -/
def syllable? (a b : Nat) : Option Nat :=
  if leadBase ≤ a ∧ a < leadBase + leadCount ∧ vowelBase ≤ b ∧ b < vowelBase + vowelCount then
    some (syllableBase + ((a - leadBase) * vowelCount + (b - vowelBase)) * trailCount)
  else if syllableBase ≤ a ∧ a < syllableBase + syllableCount ∧ (a - syllableBase) % trailCount = 0
      ∧ trailBase < b ∧ b < trailBase + trailCount then
    some (a + (b - trailBase))
  else none

/-! ## taking apart and putting together -/

/-- A character taken apart; `depth` bounds how often a base is taken apart again. -/
def decompose : Nat → Nat → List Char
  | 0, n => [Char.ofNat n]
  | depth + 1, n =>
    match letters? n with
    | some parts => parts.map Char.ofNat
    | none =>
      match pairs.find? (·.whole == n) with
      | some p => decompose depth p.base ++ decompose depth p.mark
      | none => [Char.ofNat n]

/-- No character is taken apart more often. -/
def decompositionDepth : Nat := 4

/-- Puts a mark in its place behind the characters that stand in front of it, the last one first. -/
def insertMark (c : Char) : List Char → List Char
  | [] => [c]
  | d :: earlier =>
    if 0 < combiningClass c ∧ combiningClass c < combiningClass d then d :: insertMark c earlier
    else c :: d :: earlier

/-- A text with its marks in order. -/
def ordered (s : List Char) : List Char := (s.foldl (fun done c => insertMark c done) []).reverse

/-- The character that two make. -/
def compose? (a b : Char) : Option Char :=
  match syllable? a.toNat b.toNat with
  | some n => some (Char.ofNat n)
  | none =>
    (pairs.find? fun p => p.base == a.toNat && p.mark == b.toNat).map fun p => Char.ofNat p.whole

/-- Composes a text whose marks are in order: `base` is the last character that others can join, and
`marks` those behind it that did not join, the last one first. -/
def composeFrom : Option Char → List Char → List Char → List Char
  | base, marks, [] => base.toList ++ marks.reverse
  | none, marks, c :: rest =>
    if combiningClass c = 0 then marks.reverse ++ composeFrom (some c) [] rest
    else composeFrom none (c :: marks) rest
  | some base, marks, c :: rest =>
    let cls := combiningClass c
    let blocked := match marks with
      | [] => false
      | last :: _ => cls ≤ combiningClass last
    match if blocked then none else compose? base c with
    | some whole => composeFrom (some whole) marks rest
    | none =>
      if cls = 0 then base :: marks.reverse ++ composeFrom (some c) [] rest
      else composeFrom (some base) (c :: marks) rest

/-- The composed form of a text. -/
def normalize (s : List Char) : List Char :=
  composeFrom none [] (ordered (s.flatMap fun c => decompose decompositionDepth c.toNat))

end ProxyKeeper.Idna

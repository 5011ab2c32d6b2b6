/-!
Punycode: texts of any characters written in letters, digits and hyphens. The plain characters come
first; behind a hyphen follow the others, as distances between code points and places in numbers of
variable length.
-/

namespace ProxyKeeper.Idna.Punycode

def base : Nat := 36
def least : Nat := 1
def most : Nat := 26
def skew : Nat := 38
def damp : Nat := 700
def firstBias : Nat := 72
def firstCode : Nat := 0x80

def isBasic (c : Char) : Bool := c.toNat < firstCode

/-- Scales a distance down until it fits a digit; the number of steps, and what is left. -/
def scale (delta : Nat) : Nat × Nat :=
  if (base - least) * most / 2 < delta then
    let (steps, rest) := scale (delta / (base - least))
    (steps + 1, rest)
  else (0, delta)
termination_by delta
decreasing_by exact Nat.div_lt_self (by omega) (by decide)

/-- The bias for the distances that follow one. -/
def adapt (delta points : Nat) (first : Bool) : Nat :=
  let delta := if first then delta / damp else delta / 2
  let (steps, rest) := scale (delta + delta / points)
  steps * base + (base - least + 1) * rest / (rest + skew)

/-- The digit at which a number ends at this place. -/
def threshold (k bias : Nat) : Nat := min (max (k - bias) least) most

theorem least_le_threshold (k bias : Nat) : least ≤ threshold k bias := by
  simp only [threshold, least, most]
  omega

/-! ## writing -/

def digit (n : Nat) : Char :=
  if n < 26 then Char.ofNat ('a'.toNat + n) else Char.ofNat ('0'.toNat + (n - 26))

/-- A number of variable length. -/
def writeNumber (bias k q : Nat) : List Char :=
  let t := threshold k bias
  if q < t then [digit q]
  else digit (t + (q - t) % (base - t)) :: writeNumber bias (k + base) ((q - t) / (base - t))
termination_by q
decreasing_by
  have positive : 1 ≤ threshold k bias := least_le_threshold k bias
  have := Nat.div_le_self (q - threshold k bias) (base - threshold k bias)
  omega

structure Progress where
  code : Nat := firstCode
  delta : Nat := 0
  bias : Nat := firstBias
  /-- How many characters are written. -/
  handled : Nat
  /-- Whether a distance has been written. -/
  started : Bool := false
  output : List Char

/-- A character of the text, while those of code point `m` are written. -/
def writePoint (m : Nat) (p : Progress) (c : Char) : Progress :=
  if c.toNat < m then { p with delta := p.delta + 1 }
  else if c.toNat = m then
    { p with
      delta := 0
      bias := adapt p.delta (p.handled + 1) (!p.started)
      handled := p.handled + 1
      started := true
      output := p.output ++ writeNumber p.bias base p.delta }
  else p

/-- Writes all characters of one code point. -/
def writeCode (text : List Char) (p : Progress) (m : Nat) : Progress :=
  let p := { p with delta := p.delta + (m - p.code) * (p.handled + 1) }
  let p := text.foldl (writePoint m) p
  { p with delta := p.delta + 1, code := m + 1 }

def encode (text : List Char) : List Char :=
  let basic := text.filter isBasic
  let codes := ((text.filter (!isBasic ·)).map Char.toNat).eraseDups.mergeSort
  let start := if basic.isEmpty then [] else basic ++ ['-']
  (codes.foldl (writeCode text) { handled := basic.length, output := start }).output

/-! ## reading -/

def digitValue? (c : Char) : Option Nat :=
  if 'a' ≤ c ∧ c ≤ 'z' then some (c.toNat - 'a'.toNat)
  else if 'A' ≤ c ∧ c ≤ 'Z' then some (c.toNat - 'A'.toNat)
  else if '0' ≤ c ∧ c ≤ '9' then some (c.toNat - '0'.toNat + 26)
  else none

/-- A number under way: its value so far, the weight of its next digit and the place of that. -/
structure Partial where
  value : Nat
  weight : Nat := 1
  place : Nat := base
  begun : Bool := false

/-- Numbers do not exceed 32 bits. -/
def limit : Nat := UInt32.size

/-- Reads the distances; `index` is the place behind the character inserted last. -/
def readFrom : List Char → List Char → Nat → Nat → Nat → Partial → Option (List Char)
  | [], out, _, _, _, p => if p.begun then none else some out
  | c :: rest, out, code, index, bias, p => do
    let d ← digitValue? c
    let value := p.value + d * p.weight
    if limit ≤ value then none
    let t := threshold p.place bias
    if d < t then
      let points := out.length + 1
      let code := code + value / points
      let place := value % points
      if code.isValidChar then
        readFrom rest (out.insertIdx place (Char.ofNat code)) code (place + 1)
          (adapt (value - index) points (index == 0)) { value := place + 1 }
      else none
    else
      let weight := p.weight * (base - t)
      if limit ≤ weight then none
      readFrom rest out code index bias ⟨value, weight, p.place + base, true⟩

/-- What stands in front of the last hyphen and what behind it; a hyphen in front of all does not
count. -/
def split (s : List Char) : List Char × List Char :=
  let behind := (s.reverse.takeWhile (· ≠ '-')).reverse
  let front := s.take (s.length - behind.length - 1)
  if front.isEmpty then ([], s) else (front, behind)

def decode? (s : List Char) : Option (List Char) :=
  let (front, behind) := split s
  if front.all isBasic then readFrom behind front firstCode 0 firstBias { value := 0 } else none

end ProxyKeeper.Idna.Punycode

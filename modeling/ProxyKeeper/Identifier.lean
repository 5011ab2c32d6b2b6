import ProxyKeeper.Text.Split

/-!
Identifiers for new records: random 128-bit numbers of version 4, in lower-case hexadecimal with
hyphens.
-/

namespace ProxyKeeper.Identifier

/-- The lengths of the five groups of digits. -/
def groupLengths : List Nat := [8, 4, 4, 4, 12]

/-- Hexadecimal digits of a number, the last `count` of them. -/
def hexText : Nat → Nat → List Char
  | 0, _ => []
  | count + 1, n => hexText count (n / 16) ++ [Nat.digitChar (n % 16)]

/-- Writes the version and the variant into a random number. -/
def stamped (bits : Nat) : Nat :=
  let high := bits / UInt64.size % UInt64.size
  let low := bits % 0x4000000000000000
  (high / 0x10000 * 0x10000 + 0x4000 + high % 0x1000) * UInt64.size + 0x8000000000000000 + low

/-- Cuts a text into groups of the given lengths. -/
def groups : List Nat → List Char → List (List Char)
  | [], _ => []
  | n :: lengths, s => s.take n :: groups lengths (s.drop n)

/-- The identifier made from 128 random bits. -/
def ofRandom (bits : Nat) : String :=
  .ofList (['-'].intercalate (groups groupLengths (hexText 32 (stamped bits))))

def isLowerHex (c : Char) : Bool := c.isDigit || ('a' ≤ c && c ≤ 'f')

/-- Whether a text is an identifier of version 4. -/
def isVersion4 (s : String) : Bool :=
  let parts := Text.splitAt '-' s.toList
  parts.map List.length == groupLengths && parts.all (·.all isLowerHex)
    && (parts[2]?.bind List.head?) == some '4'
    && (parts[3]?.bind List.head?).any "89ab".toList.contains

end ProxyKeeper.Identifier

import ProxyKeeper.Text.Digits
import ProxyKeeper.Text.Split

/-!
IP addresses and their text: four octets with dots, or eight groups with colons of which one run of
zero groups may be left out.
-/

namespace ProxyKeeper.Net

open Text

/-- Four octets. -/
structure Ipv4 where
  a : UInt8
  b : UInt8
  c : UInt8
  d : UInt8
  deriving Repr, DecidableEq, BEq

namespace Ipv4

def render (ip : Ipv4) : String := s!"{ip.a}.{ip.b}.{ip.c}.{ip.d}"

/-- The address with this 32-bit number. -/
def ofNat (n : Nat) : Ipv4 :=
  ⟨(n / 0x1000000).toUInt8, (n / 0x10000).toUInt8, (n / 0x100).toUInt8, n.toUInt8⟩

/-- An octet in decimal, without leading zeros. -/
def octet? (s : List Char) : Option UInt8 :=
  if s.head? == some '0' && s.length > 1 then none
  else (readDecimal 256 s).map Nat.toUInt8

/-- The address that four octets with dots stand for. -/
def parse? (s : List Char) : Option Ipv4 :=
  match splitAt '.' s with
  | [a, b, c, d] => do return ⟨← octet? a, ← octet? b, ← octet? c, ← octet? d⟩
  | _ => none

def unspecified : Ipv4 := ⟨0, 0, 0, 0⟩

def loopback : Ipv4 := ⟨127, 0, 0, 1⟩

/-- The two groups of sixteen bits that the address fills. -/
def groups (ip : Ipv4) : List Nat :=
  [ip.a.toNat * 256 + ip.b.toNat, ip.c.toNat * 256 + ip.d.toNat]

end Ipv4

/-- Eight groups of sixteen bits. -/
structure Ipv6 where
  groups : List Nat
  deriving Repr, DecidableEq, BEq

namespace Ipv6

/-! ## writing -/

/-- How many zeros a list starts with. -/
def leadingZeros : List Nat → Nat
  | 0 :: rest => leadingZeros rest + 1
  | _ => 0

/-- The first of the longest runs of zeros as index and length; `best` is the run found so far. -/
def longestRun : List Nat → Nat → Nat × Nat → Nat × Nat
  | [], _, best => best
  | g :: rest, index, best =>
    let n := leadingZeros (g :: rest)
    longestRun rest (index + 1) (if best.2 < n then (index, n) else best)

def renderGroup (g : Nat) : String := .ofList (Nat.toDigits 16 g)

def renderGroups (gs : List Nat) : String := ":".intercalate (gs.map renderGroup)

/-- Groups with colons; the longest run of two or more zeros is left out. -/
def compressed (ip : Ipv6) : String :=
  let (start, length) := longestRun ip.groups 0 (0, 0)
  if 2 ≤ length then
    renderGroups (ip.groups.take start) ++ "::" ++ renderGroups (ip.groups.drop (start + length))
  else renderGroups ip.groups

/-- The four octets inside an address that maps one of the older kind. -/
def mapped? (ip : Ipv6) : Option Ipv4 :=
  match ip.groups with
  | [0, 0, 0, 0, 0, 0xFFFF, high, low] => some (.ofNat (high * 0x10000 + low))
  | _ => none

/-- Groups with colons, but a mapped address with its octets in dots. -/
def render (ip : Ipv6) : String :=
  match ip.mapped? with
  | some v4 => "::ffff:" ++ v4.render
  | none => ip.compressed

/-! ## reading -/

/-- One to four hexadecimal digits. -/
def group? (s : List Char) : Option Nat := if s.length ≤ 4 then readDigits 16 s else none

/-- Pieces as groups; the last may be four octets where `quad` allows it. -/
def groups? (quad : Bool) : List (List Char) → Option (List Nat)
  | [] => some []
  | [last] =>
    match group? last with
    | some g => some [g]
    | none => if quad then (Ipv4.parse? last).map Ipv4.groups else none
  | piece :: rest => do
    let g ← group? piece
    return g :: (← groups? quad rest)

/-- The groups between single colons, none in an empty text. -/
def part? (quad : Bool) (s : List Char) : Option (List Nat) :=
  if s.isEmpty then some [] else groups? quad (splitAt ':' s)

/-- What stands in front of the first double colon, and what behind it. -/
def cutDouble : List Char → Option (List Char × List Char)
  | ':' :: ':' :: rest => some ([], rest)
  | [] => none
  | c :: rest => (cutDouble rest).map fun (before, after) => (c :: before, after)

/-- The address that a text stands for. A double colon stands for one or more zero groups. -/
def parse? (s : List Char) : Option Ipv6 :=
  match cutDouble s with
  | none => do
    let gs ← part? true s
    if gs.length = 8 then some ⟨gs⟩ else none
  | some (front, back) => do
    let head ← part? false front
    let tail ← part? true back
    if head.length + tail.length ≤ 7 then
      some ⟨head ++ List.replicate (8 - head.length - tail.length) 0 ++ tail⟩
    else none

end Ipv6

end ProxyKeeper.Net

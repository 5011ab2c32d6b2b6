/-!
The shortest decimal that reads back as a given binary64 number, in exact integer arithmetic.

A finite number is `m · 2^q`. The reals that round to it form an interval around it; its ends
belong to the interval exactly when `m` is even. For one digit, two digits and so on the two
neighbours of the number on that decimal grid are tested, and the first grid with a neighbour in
the interval wins; of two neighbours the nearer.
-/

namespace ProxyKeeper.Decimal

/-- A positive number written as a natural number of significant digits and a power of ten. -/
structure Digits where
  significand : Nat
  exponent : Int
  deriving Repr, DecidableEq

/-- The parts of a positive finite binary64 number: its value is `mantissa · 2^exponent`, and
`gapHalved` says that the next smaller number is only half as far as the next larger one. -/
structure Magnitude where
  mantissa : Nat
  exponent : Int
  gapHalved : Bool
  deriving Repr, DecidableEq

/-- A binary64 number by its class. -/
inductive Binary64 where
  | nan
  | infinite (negative : Bool)
  | zero (negative : Bool)
  | finite (negative : Bool) (magnitude : Magnitude)
  deriving Repr, DecidableEq

/-- The number of fractions; they have fifty-two bits. -/
def fractionSize : Nat := 0x10000000000000

/-- The number of exponents; they have eleven bits. -/
def exponentSize : Nat := 0x800

/-- Splits the 64 bits of a number: sign, exponent, fraction. -/
def Binary64.ofBits (bits : UInt64) : Binary64 :=
  let negative := bits.toNat / (exponentSize * fractionSize) == 1
  let biased : Nat := bits.toNat / fractionSize % exponentSize
  let fraction : Nat := bits.toNat % fractionSize
  if biased = 2047 then (if fraction = 0 then .infinite negative else .nan)
  else if biased = 0 then
    if fraction = 0 then .zero negative else .finite negative ⟨fraction, -1074, false⟩
  else .finite negative ⟨fractionSize + fraction, (biased : Int) - 1075, fraction == 0 && biased != 1⟩

/-- A positive rational number. -/
structure Ratio where
  num : Nat
  den : Nat

namespace Ratio

/-- The number `n · 2^q`. -/
def scaledBinary (n : Nat) (q : Int) : Ratio :=
  if 0 ≤ q then ⟨n * Nat.pow 2 q.toNat, 1⟩ else ⟨n, Nat.pow 2 (-q).toNat⟩

/-- The number divided by `10^e`. -/
def perTen (r : Ratio) (e : Int) : Ratio :=
  if 0 ≤ e then ⟨r.num, r.den * Nat.pow 10 e.toNat⟩ else ⟨r.num * Nat.pow 10 (-e).toNat, r.den⟩

/-- How many decimal digits a number has; zero has none. -/
def digitCount (n : Nat) : Nat := if n = 0 then 0 else (Nat.toDigits 10 n).length

/-- The `e` with `10^(e-1) ≤ r < 10^e`. -/
def magnitude (r : Ratio) : Int :=
  if r.den ≤ r.num then digitCount (r.num / r.den)
  else 1 - digitCount ((r.den - 1) / r.num)

end Ratio

/-- The interval of reals that read back as a number, in quarters of its last binary place. -/
structure Window where
  low : Nat
  high : Nat
  closed : Bool

/-- The window of a magnitude, over the scale `4 · mantissa`. -/
def Magnitude.window (x : Magnitude) : Window :=
  ⟨4 * x.mantissa - (if x.gapHalved then 1 else 2), 4 * x.mantissa + 2, x.mantissa % 2 == 0⟩

/-- Whether the grid point `n · 10^e` lies in the window of `x`. -/
def Magnitude.admits (x : Magnitude) (n : Nat) (e : Int) : Bool :=
  let unit := Ratio.perTen (Ratio.scaledBinary 1 (x.exponent - 2)) e
  let w := x.window
  let point := n * unit.den
  if w.closed then w.low * unit.num ≤ point && point ≤ w.high * unit.num
  else w.low * unit.num < point && point < w.high * unit.num

/-- The nearest point in the window of the grid with step `10^e`, if the window holds one of the
two neighbours of `x` on it; the even one of two that are equally near. -/
def Magnitude.onGrid (x : Magnitude) (e : Int) : Option Digits :=
  let v := Ratio.perTen (Ratio.scaledBinary x.mantissa x.exponent) e
  let below := v.num / v.den
  let rest := v.num % v.den
  let nearer :=
    if 2 * rest < v.den then below
    else if v.den < 2 * rest then below + 1
    else if below % 2 = 0 then below else below + 1
  let other := if nearer = below then below + 1 else below
  if x.admits nearer e then some ⟨nearer, e⟩
  else if x.admits other e then some ⟨other, e⟩
  else none

/-- Drops final zeros of a significand, at most `fuel` of them. -/
def Digits.stripped : Nat → Digits → Digits
  | 0, d => d
  | fuel + 1, d =>
    if d.significand ≠ 0 ∧ d.significand % 10 = 0 then
      stripped fuel ⟨d.significand / 10, d.exponent + 1⟩
    else d

/-- The shortest digits of a magnitude: seventeen always suffice. -/
def Magnitude.shortest (x : Magnitude) : Digits :=
  let top := (Ratio.scaledBinary x.mantissa x.exponent).magnitude
  let found := (List.range 17).findSome? fun i => x.onGrid (top - (i + 1 : Nat))
  (found.getD ⟨x.mantissa, x.exponent⟩).stripped 20

/-- How a decimal is written: where positional notation ends, and how an exponent looks. -/
structure Style where
  /-- The smallest power of the leading digit that is written positionally. -/
  lowest : Int
  /-- The largest power of the leading digit that is written positionally. -/
  highest : Int
  /-- Whether a whole number ends in a point and a zero. -/
  pointZero : Bool
  /-- The sign written in front of a positive exponent. -/
  plus : String
  nan : String
  infinity : String

/-- Digits with a point after the first `n` of them. -/
def pointAfter (n : Nat) (digits : List Char) : String :=
  if digits.length ≤ n then .ofList digits
  else .ofList (digits.take n ++ '.' :: digits.drop n)

/-- The text of a positive decimal. -/
def Digits.write (style : Style) (d : Digits) : String :=
  let digits := Nat.toDigits 10 d.significand
  let power : Int := d.exponent + digits.length - 1
  if power < style.lowest ∨ style.highest < power then
    pointAfter 1 digits ++ "e" ++ (if power < 0 then "-" else style.plus)
      ++ toString power.natAbs
  else if power < 0 then
    "0." ++ .ofList (List.replicate (power.natAbs - 1) '0' ++ digits)
  else if 0 ≤ d.exponent then
    .ofList (digits ++ List.replicate d.exponent.toNat '0') ++ (if style.pointZero then ".0" else "")
  else pointAfter (power.toNat + 1) digits

/-- The text of a binary64 number given by its bits. -/
def write (style : Style) (bits : UInt64) : String :=
  let sign (negative : Bool) := if negative then "-" else ""
  match Binary64.ofBits bits with
  | .nan => style.nan
  | .infinite negative => sign negative ++ style.infinity
  | .zero negative => sign negative ++ (if style.pointZero then "0.0" else "0")
  | .finite negative x => sign negative ++ x.shortest.write style

end ProxyKeeper.Decimal

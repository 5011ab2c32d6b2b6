/-!
The binary64 number nearest to a decimal.
-/

namespace ProxyKeeper.Decimal

/-- The bits of the number nearest to `± significand · 10^exponent`. Below the smallest numbers this
is zero, above the largest an infinity; the power of ten is only looked at where neither is plain
from the number of digits. -/
def nearest (negative : Bool) (significand : Nat) (exponent : Int) : UInt64 :=
  let size : Int := (Nat.toDigits 10 significand).length + exponent
  let magnitude : Float :=
    if significand = 0 ∨ size < -400 then 0.0
    else if 400 < size then 1.0 / 0.0
    else if exponent < 0 then Float.ofScientific significand true exponent.natAbs
    else Float.ofScientific significand false exponent.natAbs
  (if negative then -magnitude else magnitude).toBits

end ProxyKeeper.Decimal

/-!
Numbers as a data format carries them: a natural number, an integer of a format that has signs, or a
binary64 number known by its bits. `naturalBound` and `negativeBound` say how far the two exact
kinds reach.
-/

namespace ProxyKeeper.Data

inductive Number where
  | natural (n : Nat)
  | integer (i : Int)
  | float (bits : UInt64)
  deriving Repr, DecidableEq

/-- Naturals below this bound are kept exactly. -/
def naturalBound : Nat := UInt64.size

/-- Negative integers down to minus this bound are kept exactly. -/
def negativeBound : Nat := 0x8000000000000000

/-- The natural number with the value of a whole number. -/
def Number.natural? : Number → Option Nat
  | .natural n => some n
  | .integer (.ofNat n) => some n
  | .integer (.negSucc _) | .float _ => none

end ProxyKeeper.Data

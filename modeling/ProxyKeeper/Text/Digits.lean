/-!
Reading digits: the value of one, and the number that a text of digits stands for.
-/

namespace ProxyKeeper.Text

/-- The value of a digit of any base up to sixteen. -/
def digitValue? (c : Char) : Option Nat :=
  if '0' ≤ c ∧ c ≤ '9' then some (c.toNat - '0'.toNat)
  else if 'a' ≤ c ∧ c ≤ 'f' then some (c.toNat - 'a'.toNat + 10)
  else if 'A' ≤ c ∧ c ≤ 'F' then some (c.toNat - 'A'.toNat + 10)
  else none

/-- The number that digits of a base stand for; none for no digits or a digit too large. -/
def readDigits (base : Nat) (s : List Char) : Option Nat :=
  if s.isEmpty then none
  else
    s.foldlM (fun n c =>
      match digitValue? c with
      | some d => if d < base then some (n * base + d) else none
      | none => none) 0

/-- The decimal number that a text of digits stands for, if it is below the bound. -/
def readDecimal (bound : Nat) (s : List Char) : Option Nat :=
  (readDigits 10 s).filter (· < bound)

end ProxyKeeper.Text

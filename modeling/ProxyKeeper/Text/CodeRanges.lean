import ProxyKeeper.Text.Digits

/-!
Sets of characters given as ranges of code points. A table is written as text,
one range after the other in hexadecimal (`300-36f 483-489 5bf`), and read once.
-/

namespace ProxyKeeper.Text

/-- A set of code points, as inclusive ranges in rising order. -/
structure CodeRanges where
  spans : List (Nat × Nat)

namespace CodeRanges

/-- Reads ranges from the front of a written table: the number under way, and the lower end of the
range under way when its dash has been seen. -/
def readFrom : List Char → Nat → Option Nat → List (Nat × Nat)
  | [], n, low => [(low.getD n, n)]
  | c :: rest, n, low =>
    if c = ' ' then (low.getD n, n) :: readFrom rest 0 none
    else if c = '-' then readFrom rest 0 (some n)
    else readFrom rest (16 * n + (digitValue? c).getD 0) low

/-- The ranges of a written table. -/
def read (table : String) : CodeRanges := ⟨readFrom table.toList 0 none⟩

def contains (r : CodeRanges) (c : Char) : Bool :=
  r.spans.any fun (low, high) => low ≤ c.toNat && c.toNat ≤ high

end CodeRanges

end ProxyKeeper.Text

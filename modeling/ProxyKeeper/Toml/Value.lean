/-!
TOML values. A table is the list of its entries in the order in which they were written; dates and
times are kept as their text.
-/

namespace ProxyKeeper

inductive Toml where
  | text (value : String)
  | integer (value : Int)
  /-- A binary64 number by its bits. -/
  | float (bits : UInt64)
  | flag (value : Bool)
  /-- A date, a time, or both. -/
  | moment (text : String)
  | array (items : List Toml)
  | table (entries : List (String × Toml))
  deriving Inhabited

namespace Toml

/-- Integers are those of 64 bits with sign. -/
def integerBound : Int := 0x8000000000000000

def isInteger (i : Int) : Bool := -integerBound ≤ i && i < integerBound

end Toml

end ProxyKeeper

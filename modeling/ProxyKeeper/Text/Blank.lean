/-!
Blank characters and trimming. `isBlank` is the Unicode property White_Space; `isAsciiBlank` is
the five blanks that text protocols know.
-/

namespace ProxyKeeper.Text

/-- The Unicode property White_Space. -/
def isBlank (c : Char) : Bool :=
  let n := c.toNat
  (0x09 ≤ n && n ≤ 0x0D) || n == 0x20 || n == 0x85 || n == 0xA0 || n == 0x1680
    || (0x2000 ≤ n && n ≤ 0x200A) || n == 0x2028 || n == 0x2029 || n == 0x202F || n == 0x205F
    || n == 0x3000

/-- Drops what `p` holds of at both ends. -/
def trimBy (p : Char → Bool) (s : List Char) : List Char :=
  ((s.dropWhile p).reverse.dropWhile p).reverse

/-- A text without the blanks at its ends. -/
def trim (s : String) : String := .ofList (trimBy isBlank s.toList)

/-- Whether nothing but blanks stands in a text. -/
def isAllBlank (s : String) : Bool := s.toList.all isBlank

end ProxyKeeper.Text

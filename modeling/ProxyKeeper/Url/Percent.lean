import ProxyKeeper.Text.Digits

/-!
Percent-encoding: a byte written as a percent sign and two hexadecimal digits. Which characters
must be written so depends on the part of the URL; every part encodes control characters and
everything beyond ASCII.
-/

namespace ProxyKeeper.Url

/-- Control characters, the delete character, and everything beyond ASCII. -/
def isControl (c : Char) : Bool := c.toNat < 0x20 || 0x7F ≤ c.toNat

def isIn (s : String) (c : Char) : Bool := s.toList.contains c

/-! ## the characters that each part encodes -/

def fragmentSet (c : Char) : Bool := isControl c || isIn " \"<>`" c

def querySet (c : Char) : Bool := isControl c || isIn " \"#<>" c

/-- In a special scheme a query also encodes the apostrophe. -/
def specialQuerySet (c : Char) : Bool := querySet c || c = '\''

def pathSet (c : Char) : Bool := fragmentSet c || isIn "#?\x7b\x7d" c

def userinfoSet (c : Char) : Bool := pathSet c || isIn "/:;=@[\\]^|" c

/-! ## encoding and decoding -/

def upperHex (n : Nat) : Char := (Nat.digitChar n).toUpper

def encodeByte (b : UInt8) : List Char := ['%', upperHex (b.toNat / 16), upperHex (b.toNat % 16)]

/-- A text in which every character of the set is encoded byte by byte. -/
def percentEncode (mustEncode : Char → Bool) (s : List Char) : List Char :=
  s.flatMap fun c => if mustEncode c then (String.utf8EncodeChar c).flatMap encodeByte else [c]

/-- The bytes of a text; a percent sign without two digits stands for itself. -/
def percentDecode : List Char → List UInt8
  | [] => []
  | '%' :: a :: b :: rest =>
    match Text.digitValue? a, Text.digitValue? b with
    | some x, some y => (x * 16 + y).toUInt8 :: percentDecode rest
    | _, _ => '%'.toNat.toUInt8 :: percentDecode (a :: b :: rest)
  | c :: rest => String.utf8EncodeChar c ++ percentDecode rest

end ProxyKeeper.Url

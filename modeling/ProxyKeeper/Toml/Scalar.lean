import ProxyKeeper.Decimal.Nearest
import ProxyKeeper.Toml.Moment
import ProxyKeeper.Toml.Value

/-!
The TOML scalars that have no quotes: flags, integers, floats, dates and times. Each is one word, and
a word has one meaning or none. Digits may be parted by single underscores.
-/

namespace ProxyKeeper.Toml

/-- Digits without the underscores between them; an underscore has a digit on either side. -/
def joined (isDigit : Char → Bool) : List Char → Option (List Char)
  | [] => none
  | [c] => if isDigit c then some [c] else none
  | c :: '_' :: rest => if isDigit c then (joined isDigit rest).map (c :: ·) else none
  | c :: rest => if isDigit c then (joined isDigit rest).map (c :: ·) else none

/-- Cuts a sign from a number; true is minus. -/
def cutSign : List Char → Bool × List Char
  | '-' :: rest => (true, rest)
  | '+' :: rest => (false, rest)
  | s => (false, s)

/-- The digits of a whole decimal number: no zero stands in front of others. -/
def wholeDigits (s : List Char) : Option (List Char) :=
  (joined Char.isDigit s).filter fun digits => digits.length = 1 || s.head? != some '0'

/-! ## integers -/

def checked (i : Int) : Option Int := if isInteger i then some i else none

def isDigitOf (base : Nat) (c : Char) : Bool := (Text.digitValue? c).any (· < base)

/-- An integer in a base other than ten. -/
def basedInteger (base : Nat) (s : List Char) : Option Int := do
  let digits ← joined (isDigitOf base) s
  checked (← Text.readDigits base digits)

def readInteger (s : List Char) : Option Int :=
  match s with
  | '0' :: 'x' :: rest => basedInteger 16 rest
  | '0' :: 'o' :: rest => basedInteger 8 rest
  | '0' :: 'b' :: rest => basedInteger 2 rest
  | s => do
    let (negative, s) := cutSign s
    let n ← Text.readDigits 10 (← wholeDigits s)
    checked (if negative then -n else n)

/-! ## floats -/

def infinityBits (negative : Bool) : UInt64 :=
  if negative then 0xFFF0000000000000 else 0x7FF0000000000000

def nanBits (negative : Bool) : UInt64 :=
  if negative then 0xFFF8000000000000 else 0x7FF8000000000000

/-- The exponent behind its letter. -/
def readExponent (s : List Char) : Option Int := do
  let (negative, s) := cutSign s
  let n ← Text.readDigits 10 (← joined Char.isDigit s)
  return if negative then -n else n

/-- A number with a point or an exponent; one too large to be finite is refused, unless it is
negative. -/
def readDecimalFloat (s : List Char) : Option UInt64 := do
  let (negative, s) := cutSign s
  let isMark (c : Char) : Bool := c = '.' || c = 'e' || c = 'E'
  let whole ← wholeDigits (s.takeWhile (!isMark ·))
  let s := s.dropWhile (!isMark ·)
  let (fraction, s) ←
    match s with
    | '.' :: rest => do
      let digits := rest.takeWhile (!isMark ·)
      pure (← joined Char.isDigit digits, rest.dropWhile (!isMark ·))
    | s => pure ([], s)
  let exponent ←
    match s with
    | [] => if fraction.isEmpty then none else pure 0
    | c :: rest => if c = '.' then none else readExponent rest
  let significand ← Text.readDigits 10 (whole ++ fraction)
  let bits := Decimal.nearest negative significand (exponent - fraction.length)
  if bits = infinityBits false then none else some bits

def readFloat (s : List Char) : Option UInt64 :=
  let (negative, word) := cutSign s
  if word = ['i', 'n', 'f'] then some (infinityBits negative)
  else if word = ['n', 'a', 'n'] then some (nanBits negative)
  else readDecimalFloat s

/-! ## words -/

/-- The meaning of a word. -/
def readWord (s : List Char) : Option Toml :=
  if s = ['t', 'r', 'u', 'e'] then some (.flag true)
  else if s = ['f', 'a', 'l', 's', 'e'] then some (.flag false)
  else if isMoment s then some (.moment (.ofList s))
  else
    match readInteger s with
    | some i => some (.integer i)
    | none => (readFloat s).map .float

/-- What a word is made of. -/
def isWordChar (c : Char) : Bool :=
  c.isAlphanum || c = '_' || c = '+' || c = '-' || c = '.' || c = ':'

/-- Cuts a word from a text. A single space parts a date from its time, where a digit follows. -/
def cutWord (s : List Char) : List Char × List Char :=
  let word := s.takeWhile isWordChar
  match s.dropWhile isWordChar with
  | ' ' :: d :: rest =>
    if d.isDigit && passDate word == some [] then
      (word ++ ' ' :: (d :: rest).takeWhile isWordChar, (d :: rest).dropWhile isWordChar)
    else (word, ' ' :: d :: rest)
  | rest => (word, rest)

end ProxyKeeper.Toml

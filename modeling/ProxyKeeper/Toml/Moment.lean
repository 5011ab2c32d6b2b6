import ProxyKeeper.Text.Digits

/-!
Dates and times in TOML: a date, a time of day, or a date with a time that may have an offset. A day
must be one that its month has.
-/

namespace ProxyKeeper.Toml

/-- Reads exactly `n` digits as a number. -/
def readCount (n : Nat) (s : List Char) : Option (Nat × List Char) := do
  let digits := s.take n
  if digits.length = n ∧ digits.all Char.isDigit then
    return (← Text.readDigits 10 digits, s.drop n)
  else none

/-- Reads a number of two digits within bounds. -/
def readTwo (low high : Nat) (s : List Char) : Option (Nat × List Char) :=
  (readCount 2 s).filter fun (n, _) => low ≤ n && n ≤ high

/-- Reads one character. -/
def readMark (c : Char) : List Char → Option (List Char)
  | x :: rest => if x = c then some rest else none
  | [] => none

def isLeapYear (year : Nat) : Bool := year % 4 = 0 && (year % 100 ≠ 0 || year % 400 = 0)

def daysIn (year month : Nat) : Nat :=
  if month = 2 then (if isLeapYear year then 29 else 28)
  else if month = 4 || month = 6 || month = 9 || month = 11 then 30
  else 31

/-- Passes over a date. -/
def passDate (s : List Char) : Option (List Char) := do
  let (year, s) ← readCount 4 s
  let (month, s) ← readTwo 1 12 (← readMark '-' s)
  let (_, s) ← readTwo 1 (daysIn year month) (← readMark '-' s)
  return s

/-- Passes over the fraction of a second, if there is one. -/
def passFraction : List Char → Option (List Char)
  | '.' :: rest => if (rest.takeWhile Char.isDigit).isEmpty then none else some (rest.dropWhile Char.isDigit)
  | s => some s

/-- Passes over a time of day; a minute may have a second more. -/
def passTime (s : List Char) : Option (List Char) := do
  let (_, s) ← readTwo 0 23 s
  let (_, s) ← readTwo 0 59 (← readMark ':' s)
  let (_, s) ← readTwo 0 60 (← readMark ':' s)
  passFraction s

/-- Passes over the offset of a time, if there is one. -/
def passOffset : List Char → Option (List Char)
  | [] => some []
  | c :: rest =>
    if c = 'Z' || c = 'z' then some rest
    else if c = '+' || c = '-' then do
      let (_, s) ← readTwo 0 23 rest
      let (_, s) ← readTwo 0 59 (← readMark ':' s)
      return s
    else some (c :: rest)

def isTimeMark (c : Char) : Bool := c = 'T' || c = 't' || c = ' '

/-- Whether a text is a date, a time, or both. -/
def isMoment (s : List Char) : Bool :=
  match passDate s with
  | some [] => true
  | some (c :: rest) => isTimeMark c && (passTime rest).bind passOffset == some []
  | none => passTime s == some []

end ProxyKeeper.Toml

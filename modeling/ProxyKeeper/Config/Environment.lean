import ProxyKeeper.Config.Setting
import ProxyKeeper.Decimal.Nearest
import ProxyKeeper.Text.Blank
import ProxyKeeper.Text.Split
import ProxyKeeper.Toml.Strings

/-!
Settings from environment variables. The name of a variable behind its prefix is the path of a
setting; the value is read in a small notation of its own: flags, numbers, quoted strings, single
letters, lists and groups. A value that is not in that notation is a text as it stands.
-/

namespace ProxyKeeper

/-- The variables of an environment by their names. -/
abbrev Environment := List (String × String)

def Environment.get? (env : Environment) (name : String) : Option String :=
  (env.find? (·.1 == name)).map (·.2)

namespace Config.Notation

open Data

/-! ## words -/

/-- Unsigned numbers may have a plus in front; leading zeros do not matter. -/
def readUnsigned (s : List Char) : Option Nat :=
  match s with
  | '+' :: rest => Text.readDecimal naturalBound rest
  | s => Text.readDecimal naturalBound s

def readNegative (s : List Char) : Option Int :=
  match s with
  | '-' :: rest => (Text.readDecimal (negativeBound + 1) rest).map fun n => -n
  | _ => none

/-- The exponent behind its letter. -/
def readExponent (s : List Char) : Option Int :=
  match s with
  | '-' :: rest => (Text.readDigits 10 rest).map fun n => -n
  | '+' :: rest => (Text.readDigits 10 rest).map Int.ofNat
  | s => (Text.readDigits 10 s).map Int.ofNat

/-- A number with a point; digits may be missing on one side of it. -/
def readPointed (s : List Char) : Option Number := do
  let negative := s.head? == some '-'
  let s := if negative || s.head? == some '+' then s.drop 1 else s
  let whole := s.takeWhile Char.isDigit
  match s.dropWhile Char.isDigit with
  | '.' :: rest =>
    let fraction := rest.takeWhile Char.isDigit
    let exponent ←
      match rest.dropWhile Char.isDigit with
      | [] => some 0
      | c :: rest => if c = 'e' || c = 'E' then readExponent rest else none
    let significand ← Text.readDigits 10 (whole ++ fraction)
    return .float (Decimal.nearest negative significand (exponent - fraction.length))
  | _ => none

/-- The meaning of a bare word. -/
def readWord (s : List Char) : Setting :=
  if s = "true".toList then .flag true
  else if s = "false".toList then .flag false
  else if s.contains '.' then
    match readPointed s with
    | some n => .number n
    | none => .text (.ofList s)
  else
    match readUnsigned s with
    | some n => .number (.natural n)
    | none =>
      match readNegative s with
      | some i => .number (.integer i)
      | none => .text (.ofList s)

/-! ## the notation -/

/-- A word ends in front of one of these. -/
def isBracket (c : Char) : Bool := c = ',' || c = '\x7b' || c = '\x7d' || c = '[' || c = ']'

def dropBlanks (s : List Char) : List Char := s.dropWhile Toml.isBlank

/-- A string in double quotes, in which everything but a backslash and a quote may stand. -/
def quotedBody : List Char → Option (List Char × List Char)
  | [] => none
  | ['\\'] => none
  | '\\' :: c :: rest => Toml.push '\\' (Toml.push c (quotedBody rest))
  | c :: rest => if c = '"' then some ([], rest) else Toml.push c (quotedBody rest)

def readQuoted (s : List Char) : Option (String × List Char) := do
  let (body, rest) ← quotedBody s
  let chars ← if body.all Toml.isPlain then Toml.unescape false .nothing body else none
  return (.ofList chars, rest)

def isNameChar (c : Char) : Bool := c.isAlphanum || c = '_' || c = '-'

/-- The name of an entry of a group. -/
def readName (s : List Char) : Option (String × List Char) :=
  match s with
  | '"' :: rest => readQuoted rest
  | s =>
    let name := s.takeWhile isNameChar
    if name.isEmpty then none else some (.ofList name, s.dropWhile isNameChar)

/-- Items up to a closing bracket, parted by commas; `fuel` bounds their number. -/
def readItems {α : Type} (close : Char) (item : List Char → Option (α × List Char)) :
    Nat → List Char → Option (List α × List Char)
  | 0, _ => none
  | fuel + 1, s =>
    if s.head? == some close then some ([], s.drop 1)
    else do
      let (a, s) ← item s
      match s with
      | ',' :: rest =>
        let (as, s) ← readItems close item fuel rest
        return (a :: as, s)
      | c :: rest => if c = close then some ([a], rest) else none
      | [] => none

/-- A value between blanks; `fuel` bounds the nesting. -/
def readValue : Nat → List Char → Option (Setting × List Char)
  | 0, _ => none
  | fuel + 1, s => do
    let (v, rest) ←
      match dropBlanks s with
      | '\x7b' :: rest => do
        let entry (s : List Char) : Option ((String × Setting) × List Char) := do
          let (name, s) ← readName (dropBlanks s)
          match dropBlanks s with
          | '=' :: rest =>
            let (v, s) ← readValue fuel rest
            return ((name, v), s)
          | _ => none
        let (entries, rest) ← readItems '\x7d' entry (rest.length + 1) rest
        pure (Setting.group (Setting.ordered entries), rest)
      | '[' :: rest => do
        let (items, rest) ← readItems ']' (readValue fuel) (rest.length + 1) rest
        pure (Setting.list items, rest)
      | '"' :: rest => do
        let (text, rest) ← readQuoted rest
        pure (Setting.text text, rest)
      | '\'' :: c :: '\'' :: rest => pure (Setting.letter c, rest)
      | '\'' :: _ => none
      | s =>
        let word := s.takeWhile (!isBracket ·)
        pure (readWord (Text.trimBy Text.isBlank word), s.dropWhile (!isBracket ·))
    return (v, dropBlanks rest)

/-- The setting that the value of a variable gives. -/
def read (value : String) : Setting :=
  match readValue (value.toList.length + 1) value.toList with
  | some (v, []) => v
  | _ => .text value

end Config.Notation

namespace Environment

open Config

/-- What the variables with settings have in front, in capital or small letters. -/
def settingPrefix : String := "proxyhost_"

def lower (s : List Char) : List Char := s.map Char.toLower

/-- A path with two underscores between its names in place of points. -/
def pointed : List Char → List Char
  | '_' :: '_' :: rest => '.' :: pointed rest
  | c :: rest => c :: pointed rest
  | [] => []

/-- The path of the setting that a variable gives; none if it gives none. Names with blanks around them, or around what
is left of them without the prefix, are left out: they are taken as they stand, and the blanks are not removed. -/
def settingPath? (name : String) : Option (List String) :=
  let s := lower name.toList
  let start := settingPrefix.toList
  if start.isPrefixOf s then
    let parts := Text.splitAt '.' (pointed (s.drop start.length))
    if parts.any List.isEmpty then none else some (parts.map .ofList)
  else none

/-- The settings that an environment gives, later variables over earlier ones. -/
def settings (env : Environment) : Setting :=
  env.foldl (fun done (name, value) =>
    match settingPath? name with
    | none => done
    | some path => done.overlay (.nested path (Notation.read value))) (.group [])

end Environment

end ProxyKeeper

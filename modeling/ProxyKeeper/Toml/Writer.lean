import ProxyKeeper.Decimal.Shortest
import ProxyKeeper.Toml.Reader

/-!
Writing TOML documents. The values of a table come first, then its tables and arrays of tables, each
under a header and with an empty line in front.

A string is written in the plainest of its forms: in double quotes if nothing in it is special, else
in single quotes, else in three quotes of either kind; only where none of these can hold it, escapes
are used.
-/

namespace ProxyKeeper.Toml

/-! ## strings -/

/-- The longest run of a character. -/
def longestRun (c : Char) (s : List Char) : Nat :=
  (s.foldl (fun (now, most) x =>
    let now := if x = c then now + 1 else 0
    (now, max now most)) (0, 0)).2

/-- Whether a text holds a character that only an escape can stand for. -/
def needsEscapes (s : List Char) : Bool := s.any fun c => isControl c && c ≠ '\t' && c ≠ '\n'

def hexDigitUpper (n : Nat) : Char := (Nat.digitChar n).toUpper

/-- One character of a string in double quotes. -/
def escapeChar (c : Char) : List Char :=
  match c with
  | '"' => ['\\', '"']
  | '\\' => ['\\', '\\']
  | '\x08' => ['\\', 'b']
  | '\t' => ['\\', 't']
  | '\n' => ['\\', 'n']
  | '\x0c' => ['\\', 'f']
  | '\r' => ['\\', 'r']
  | c =>
    if isControl c then
      ['\\', 'u', '0', '0', hexDigitUpper (c.toNat / 16), hexDigitUpper (c.toNat % 16)]
    else [c]

/-- The characters of a string in three double quotes; `run` counts the quotes that stand in front
of it, of which the third is escaped. -/
def escapeMulti : Nat → List Char → List Char
  | _, [] => []
  | run, c :: rest =>
    if c = '\n' then c :: escapeMulti 0 rest
    else if c = '"' ∧ run < 2 then c :: escapeMulti (run + 1) rest
    else escapeChar c ++ escapeMulti 0 rest

/-- How a string is written. -/
inductive Quoting where
  | basic
  | literal
  | multiBasic
  | multiLiteral
  deriving Repr, DecidableEq

/-- The plainest form that can hold a text. -/
def quotingOf (s : List Char) : Quoting :=
  let doubles := longestRun '"' s
  let singles := longestRun '\'' s
  let lines := s.contains '\n'
  let backslash := s.contains '\\'
  if needsEscapes s then (if lines then .multiBasic else .basic)
  else if !backslash && doubles = 0 && !lines then .basic
  else if singles = 0 && !lines then .literal
  else if !backslash && doubles ≤ 2 then .multiBasic
  else if singles ≤ 2 then .multiLiteral
  else if lines then .multiBasic
  else .basic

/-- A string with its quotes, as characters. -/
def stringChars (s : List Char) : List Char :=
  let start : List Char := if s.contains '\n' then ['\n'] else []
  match quotingOf s with
  | .basic => ['"'] ++ s.flatMap escapeChar ++ ['"']
  | .literal => ['\''] ++ s ++ ['\'']
  | .multiBasic => ['"', '"', '"'] ++ start ++ escapeMulti 0 s ++ ['"', '"', '"']
  | .multiLiteral => ['\'', '\'', '\''] ++ start ++ s ++ ['\'', '\'', '\'']

/-! ## values -/

/-- A name as part of a key. -/
def keyChars (name : String) : List Char :=
  let s := name.toList
  if !s.isEmpty && s.all isBareChar then s else ['"'] ++ s.flatMap escapeChar ++ ['"']

/-- Floats have a point and no exponent. -/
def floatStyle : Decimal.Style := ⟨-400, 400, true, "", "nan", "inf"⟩

/-- The pieces with `sep` between them. -/
def separated (sep : List Char) : List (List Char) → List Char
  | [] => []
  | [s] => s
  | s :: rest => s ++ sep ++ separated sep rest

mutual

/-- A value on one line. -/
def valueChars : Toml → List Char
  | .text s => stringChars s.toList
  | .integer i => (toString i).toList
  | .float bits => (Decimal.write floatStyle bits).toList
  | .flag b => (if b then "true" else "false").toList
  | .moment s => s.toList
  | .array items => '[' :: separated [',', ' '] (itemChars items) ++ [']']
  | .table entries => '\x7b' :: ' ' :: separated [',', ' '] (pairChars entries) ++ [' ', '\x7d']

def itemChars : List Toml → List (List Char)
  | [] => []
  | v :: rest => valueChars v :: itemChars rest

def pairChars : List (String × Toml) → List (List Char)
  | [] => []
  | (name, v) :: rest => (keyChars name ++ " = ".toList ++ valueChars v) :: pairChars rest

end

/-! ## documents -/

/-- Whether a value has a header of its own. -/
def isSection : Toml → Bool
  | .table _ => true
  | .array (.table _ :: _) => true
  | _ => false

/-- The lines of the values of a table. -/
def valueLines (entries : List (String × Toml)) : List Char :=
  entries.flatMap fun (name, v) =>
    if isSection v then [] else keyChars name ++ " = ".toList ++ valueChars v ++ ['\n']

/-- A header with an empty line in front. -/
def headerLine (left right : String) (path : List String) : List Char :=
  ['\n'] ++ left.toList ++ separated ['.'] (path.map keyChars) ++ right.toList ++ ['\n']

mutual

/-- The tables of a table under their headers. -/
def sectionChars (path : List String) : List (String × Toml) → List Char
  | [] => []
  | (name, v) :: rest => sectionOf (path ++ [name]) v ++ sectionChars path rest

def sectionOf (path : List String) : Toml → List Char
  | .table entries => headerLine "[" "]" path ++ valueLines entries ++ sectionChars path entries
  | .array (.table entries :: rest) =>
    headerLine "[[" "]]" path ++ valueLines entries ++ sectionChars path entries
      ++ elementChars path rest
  | _ => []

/-- The further elements of an array of tables. -/
def elementChars (path : List String) : List Toml → List Char
  | [] => []
  | .table entries :: rest =>
    headerLine "[[" "]]" path ++ valueLines entries ++ sectionChars path entries
      ++ elementChars path rest
  | _ :: rest => elementChars path rest

end

/-- The document of a table. -/
def render (entries : List (String × Toml)) : String :=
  .ofList (valueLines entries ++ sectionChars [] entries)

end ProxyKeeper.Toml

import ProxyKeeper.Data.Datum
import ProxyKeeper.Decimal.Shortest

/-!
JSON values and their compact text. Members keep the order in which they are given.
-/

namespace ProxyKeeper

open Data

inductive Json where
  | null
  | bool (value : Bool)
  | number (value : Number)
  | string (value : String)
  | array (items : List Json)
  | object (members : List (String × Json))
  deriving Inhabited

namespace Json

def ofNat (n : Nat) : Json := .number (.natural n)

/-- The value of an option, null standing for none. -/
def ofOption {α : Type} (f : α → Json) : Option α → Json
  | none => .null
  | some a => f a

/-! ## text -/

/-- Numbers have a point or an exponent exactly when they are binary; positional from `1e-5` up to
below `1e16`. -/
def numberStyle : Decimal.Style := ⟨-5, 15, true, "+", "null", "null"⟩

def writeNumber : Number → String
  | .natural n => toString n
  | .integer i => toString i
  | .float bits => Decimal.write numberStyle bits

/-- The digit of a number below sixteen. -/
def hexDigit (n : Nat) : Char := Nat.digitChar n

/-- One character inside a JSON string. -/
def escapeChar (c : Char) : List Char :=
  match c with
  | '"' => ['\\', '"']
  | '\\' => ['\\', '\\']
  | '\x08' => ['\\', 'b']
  | '\x0c' => ['\\', 'f']
  | '\n' => ['\\', 'n']
  | '\r' => ['\\', 'r']
  | '\t' => ['\\', 't']
  | c =>
    if c.toNat < 0x20 then
      ['\\', 'u', '0', '0', hexDigit (c.toNat / 16), hexDigit (c.toNat % 16)]
    else [c]

/-- A string with its quotes, as characters. -/
def stringChars (s : String) : List Char := '"' :: s.toList.flatMap escapeChar ++ ['"']

mutual

/-- The compact text of a value, as characters. -/
def chars : Json → List Char
  | .null => "null".toList
  | .bool true => "true".toList
  | .bool false => "false".toList
  | .number n => (writeNumber n).toList
  | .string s => stringChars s
  | .array [] => ['[', ']']
  | .array (v :: rest) => '[' :: v.chars ++ restItems rest
  | .object [] => ['\x7b', '\x7d']
  | .object ((name, v) :: rest) => '\x7b' :: stringChars name ++ ':' :: v.chars ++ restMembers rest

def restItems : List Json → List Char
  | [] => [']']
  | v :: rest => ',' :: v.chars ++ restItems rest

def restMembers : List (String × Json) → List Char
  | [] => ['\x7d']
  | (name, v) :: rest => ',' :: stringChars name ++ ':' :: v.chars ++ restMembers rest

end

/-- The compact text of a value. -/
def render (v : Json) : String := .ofList v.chars

/-! ## as a datum -/

mutual

/-- The value as a datum without marks. -/
def plain : Json → Plain
  | .null => .null ()
  | .bool b => .flag () b
  | .number n => .number () n
  | .string s => .text () s
  | .array items => .list () (plainItems items) (.closed ())
  | .object members => .fields () (plainMembers members) (.closed ())

def plainItems : List Json → List (Option Empty × Plain)
  | [] => []
  | v :: rest => (none, v.plain) :: plainItems rest

def plainMembers : List (String × Json) → List (Unit × Option Empty × String × Plain)
  | [] => []
  | (name, v) :: rest => ((), none, name, v.plain) :: plainMembers rest

end

/-! ## look-up -/

/-- The last member of this name. -/
def get? (v : Json) (name : String) : Option Json :=
  match v with
  | .object members => (members.reverse.find? (·.1 == name)).map (·.2)
  | _ => none

/-- Puts a member in its place by name, over one of the same name. -/
def insertSorted (name : String) (v : Json) : List (String × Json) → List (String × Json)
  | [] => [(name, v)]
  | (other, w) :: rest =>
    if name = other then (name, v) :: rest
    else if name < other then (name, v) :: (other, w) :: rest
    else (other, w) :: insertSorted name v rest

mutual

/-- The value with the members of every object sorted by name; of two of one name the later stays. -/
def sorted : Json → Json
  | .array items => .array (sortedItems items)
  | .object members => .object (sortedMembers members [])
  | v => v

def sortedItems : List Json → List Json
  | [] => []
  | v :: rest => v.sorted :: sortedItems rest

def sortedMembers : List (String × Json) → List (String × Json) → List (String × Json)
  | [], done => done
  | (name, v) :: rest, done => sortedMembers rest (insertSorted name v.sorted done)

end

end Json

end ProxyKeeper

import ProxyKeeper.Data.Datum
import ProxyKeeper.Toml.Value

/-!
Settings before they mean anything: a tree that a file or the environment gives. Trees are laid over
one another: groups are joined entry by entry, and whatever else the upper tree holds replaces what
the lower one has in its place.
-/

namespace ProxyKeeper.Config

open Data

inductive Setting where
  /-- The setting is known and not set. -/
  | null
  | flag (value : Bool)
  | number (value : Number)
  | text (value : String)
  | letter (value : Char)
  | list (items : List Setting)
  /-- Entries in the order of their names, no name twice. -/
  | group (entries : List (String × Setting))
  deriving Inhabited

namespace Setting

abbrev Entries := List (String × Setting)

/-- Changes the entry of a name, or puts one in its place in the order. -/
def put (name : String) (f : Option Setting → Setting) : Entries → Entries
  | [] => [(name, f none)]
  | (other, v) :: rest =>
    if other = name then (name, f (some v)) :: rest
    else if name < other then (name, f none) :: (other, v) :: rest
    else (other, v) :: put name f rest

/-- Entries in order; of two with one name the later counts. -/
def ordered (entries : Entries) : Entries :=
  entries.foldl (fun done (name, v) => put name (fun _ => v) done) []

/-! ## layers -/

mutual

/-- The upper tree over the lower one. -/
def overlay : Setting → Setting → Setting
  | .group low, .group high => .group (overlayEntries low high)
  | _, high => high

def overlayEntries : Entries → Entries → Entries
  | low, [] => low
  | low, (name, v) :: rest =>
    overlayEntries (low |> put name fun
      | none => v
      | some old => overlay old v) rest

end

/-- A setting under a path of names. -/
def nested : List String → Setting → Setting
  | [], v => v
  | name :: path, v => .group [(name, nested path v)]

/-! ## from a file -/

/-- The name under which a date or time stands in its group. -/
def momentName : String := "$__toml_private_datetime"

mutual

/-- The setting that a TOML value gives. Integers have a sign there, and a date or time is a group of
one text. -/
def ofToml : Toml → Setting
  | .text s => .text s
  | .integer i => .number (.integer i)
  | .float bits => .number (.float bits)
  | .flag b => .flag b
  | .moment s => .group [(momentName, .text s)]
  | .array items => .list (ofTomlItems items)
  | .table entries => .group (ofTomlEntries entries [])

def ofTomlItems : List Toml → List Setting
  | [] => []
  | v :: rest => ofToml v :: ofTomlItems rest

def ofTomlEntries : List (String × Toml) → Entries → Entries
  | [], done => done
  | (name, v) :: rest, done => ofTomlEntries rest (put name (fun _ => ofToml v) done)

end

/-! ## to be decoded -/

/-- A datum whose marks are the paths that lead to its places. -/
abbrev PathDatum := Datum (List String) Empty

mutual

/-- The setting at a path as a datum. -/
def datum (path : List String) : Setting → PathDatum
  | .null => .null path
  | .flag b => .flag path b
  | .number n => .number path n
  | .text s => .text path s
  | .letter c => .letter path c
  | .list items => .list path (datumItems path 0 items) (.closed path)
  | .group entries => .fields path (datumEntries path entries) (.closed path)

def datumItems (path : List String) : Nat → List Setting → List (Option Empty × PathDatum)
  | _, [] => []
  | i, v :: rest => (none, v.datum (path ++ [toString i])) :: datumItems path (i + 1) rest

def datumEntries (path : List String) :
    Entries → List (List String × Option Empty × String × PathDatum)
  | [] => []
  | (name, v) :: rest => (path, none, name, v.datum (path ++ [name])) :: datumEntries path rest

end

end Setting

end ProxyKeeper.Config

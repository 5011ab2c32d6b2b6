import ProxyKeeper.Toml.Value

/-!
The tables of a TOML document while it is read. No entry can be given twice and a value cannot be
extended. What else may be added to a table depends on how the table came to be.
-/

namespace ProxyKeeper.Toml

/-- How a table came to be. -/
inductive Origin where
  /-- By a header of its own. -/
  | header
  /-- By a longer header; a header of its own may follow. -/
  | implied
  /-- By dotted keys. -/
  | dotted
  deriving Repr, DecidableEq

inductive Node where
  | value (v : Toml)
  | table (origin : Origin) (entries : List (String × Node))
  /-- An array of tables, the last one first. -/
  | tables (elements : List (List (String × Node)))
  deriving Inhabited

abbrev Entries := List (String × Node)

namespace Node

/-! ## as values -/

mutual

def toToml : Node → Toml
  | .value v => v
  | .table _ entries => .table (tomlEntries entries)
  | .tables elements => .array (tomlElements elements)

def tomlEntries : List (String × Node) → List (String × Toml)
  | [] => []
  | (name, n) :: rest => (name, n.toToml) :: tomlEntries rest

def tomlElements : List (List (String × Node)) → List Toml
  | [] => []
  | entries :: earlier => tomlElements earlier ++ [.table (tomlEntries entries)]

end

/-! ## additions -/

/-- Changes the entry of a name, or adds one at the end. -/
def change (name : String) (f : Option Node → Option Node) : Entries → Option Entries
  | [] => (f none).map fun n => [(name, n)]
  | (other, n) :: rest =>
    if other = name then (f (some n)).map fun n => (other, n) :: rest
    else (change name f rest).map ((other, n) :: ·)

/-- Edits the table to which a path leads, making the tables on the way that are missing. The edit
is told how the table came to be. A path of dotted keys does not enter a table with a header. -/
def editAt (dotted : Bool) (edit : Origin → Entries → Option Entries) :
    List String → Origin → Entries → Option Entries
  | [], origin, entries => edit origin entries
  | name :: path, _, entries =>
    entries |> change name fun
      | none =>
        let origin := if dotted then .dotted else .implied
        (editAt dotted edit path origin []).map (.table origin)
      | some (.value _) => none
      | some (.table origin inner) =>
        if dotted ∧ origin = .header then none
        else (editAt dotted edit path origin inner).map (.table origin)
      | some (.tables []) => none
      | some (.tables (latest :: earlier)) =>
        (editAt dotted edit path .header latest).map fun latest => .tables (latest :: earlier)

/-- Adds a value under a name that is not yet taken. -/
def addNew (name : String) (v : Toml) (entries : Entries) : Option Entries :=
  entries |> change name fun
    | none => some (.value v)
    | some _ => none

/-- Adds a value under a key in a table; all but the last part of the key lead to a table of dotted
keys. -/
def addKey (path : List String) (name : String) (v : Toml) (entries : Entries) : Option Entries :=
  entries |> editAt true (fun origin inner =>
    if path.isEmpty ∨ origin = .dotted then addNew name v inner else none) path .header

/-- Adds a value in the table of the header that was read last. -/
def addUnder (header path : List String) (name : String) (v : Toml) (root : Entries) :
    Option Entries :=
  root |> editAt false (fun _ inner => addKey path name v inner) header .header

/-- Opens the table of a header. -/
def openTable (path : List String) (name : String) (root : Entries) : Option Entries :=
  root |> editAt false (fun _ inner =>
    inner |> change name fun
      | none => some (.table .header [])
      | some (.table .implied entries) => some (.table .header entries)
      | some _ => none) path .header

/-- Opens the next table of an array of tables. -/
def openElement (path : List String) (name : String) (root : Entries) : Option Entries :=
  root |> editAt false (fun _ inner =>
    inner |> change name fun
      | none => some (.tables [[]])
      | some (.tables elements) => some (.tables ([] :: elements))
      | some _ => none) path .header

end Node

end ProxyKeeper.Toml

import ProxyKeeper.Data.Mismatch

/-!
Taking a datum for a record. A `Shape` lists the fields of the record in their order; a datum gives
them by name, in any order and among members that mean nothing here, or by position.

Two members for one field are refused as soon as the name of the second is read. A field that is
missing is noticed at the end, and of several the first in the order of the shape.
-/

namespace ProxyKeeper.Data

/-- When a field may be left out. -/
inductive Absence where
  | refused
  | allowed
  /-- Only where the fields are given by name. -/
  | allowedByName
  deriving Repr, DecidableEq

/-- A field of a record type `α`: its names and what its datum does to a record under way. -/
structure Field (κ ι α : Type) where
  name : String
  aliases : List String
  absence : Absence
  store : Datum κ ι → α → Except (Fault κ ι) α

/-- A record type: what it is called in complaints, its fields, and the record before any field is
stored, with every default in place. -/
structure Shape (κ ι α : Type) where
  label : String
  fields : List (Field κ ι α)
  blank : α

/-- A field whose datum is taken by `take` and put in place by `put`. -/
def Field.of {κ ι α β : Type} (name : String) (absence : Absence) (take : Take κ ι β)
    (put : β → α → α) : Field κ ι α :=
  ⟨name, [], absence, fun d r => (take d).map (put · r)⟩

/-- The same field under further names. -/
def Field.also {κ ι α : Type} (f : Field κ ι α) (aliases : List String) : Field κ ι α :=
  { f with aliases := f.aliases ++ aliases }

/-- Whether a member of this name gives the field. -/
def Field.answersTo {κ ι α : Type} (f : Field κ ι α) (name : String) : Bool :=
  f.name == name || f.aliases.contains name

namespace Shape

variable {κ ι α : Type}

/-- The members of a datum stored one after the other; `seen` are the fields already given. -/
def members (s : Shape κ ι α) :
    List (κ × Option ι × String × Datum κ ι) → List String → α →
      Except (Fault κ ι) (List String × α)
  | [], seen, record => .ok (seen, record)
  | (mark, flaw, name, d) :: rest, seen, record => do
    if let some issue := flaw then throw (.unreadable issue)
    match s.fields.find? (·.answersTo name) with
    | none =>
      if let some issue := d.skip then throw (.unreadable issue)
      s.members rest seen record
    | some f =>
      if seen.contains f.name then throw (.mismatch mark (.duplicateField f.name))
      let record ← f.store d record
      s.members rest (f.name :: seen) record

/-- The first field that had to be given and was not. -/
def missing? (s : Shape κ ι α) (seen : List String) : Option String :=
  (s.fields.find? fun f => f.absence == .refused && !seen.contains f.name).map (·.name)

/-- What a reader complains about who expected this many elements. -/
def countLabel (s : Shape κ ι α) : String :=
  let n := s.fields.length
  s!"{s.label} with {n} element" ++ (if n = 1 then "" else "s")

/-- The fields given by position. `total` is the number of elements of the whole list, `index` how
many are taken. -/
def positions (s : Shape κ ι α) (mark : κ) (total : Nat) (ending : Ending κ ι) :
    List (Field κ ι α) → List (Option ι × Datum κ ι) → Nat → α → Except (Fault κ ι) α
  | [], [], _, record =>
    match ending with
    | .broken _ _ leaving => .error (.unreadable leaving)
    | .closed _ | .unreached => .ok record
  | [], (leaving, _) :: _, index, _ =>
    match leaving with
    | some issue => .error (.unreadable issue)
    | none => .error (.mismatch mark (.tooLong total index))
  | f :: fields, [], index, record =>
    match ending with
    | .broken used _ _ => .error (.unreadable used)
    | .closed behind =>
      if f.absence == .allowed then s.positions mark total ending fields [] (index + 1) record
      else .error (.mismatch behind (.tooShort index s.countLabel))
    | .unreached => .ok record
  | f :: fields, (_, d) :: rest, index, record => do
    let record ← f.store d record
    s.positions mark total ending fields rest (index + 1) record

/-- The record of this shape that a datum gives. -/
def take (s : Shape κ ι α) : Take κ ι α
  | .list mark items ending => s.positions mark items.length ending s.fields items 0 s.blank
  | .fields _ given ending => do
    let (seen, record) ← s.members given [] s.blank
    match ending with
    | .broken used _ _ => throw (.unreadable used)
    | .unreached => return record
    | .closed behind =>
      if let some name := s.missing? seen then throw (.mismatch behind (.missingField name))
      return record
  | d => Take.refuse s.label d

end Shape

end ProxyKeeper.Data

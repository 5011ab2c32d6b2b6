import ProxyKeeper.Instance.Basic
import ProxyKeeper.Watch

/-!
The store of instances: records in the order in which they were added, each of them valid, no id
twice. An operation that fails changes nothing and tells nobody.
-/

namespace ProxyKeeper

structure InstanceStore where
  records : Watch (List Instance)

namespace InstanceStore

def empty : InstanceStore := ⟨{ value := [] }⟩

def snapshot (s : InstanceStore) : List Instance := s.records.value

def get? (s : InstanceStore) (id : String) : Option Instance := s.snapshot.find? (·.id == id)

/-- Applies an edit to the records. -/
def edit {β : Type} (s : InstanceStore) (f : List Instance → Except Failure (List Instance × β)) :
    InstanceStore × Except Failure β :=
  let (records, result) := s.records.update f
  (⟨records⟩, result)

/-! ## edits -/

/-- Puts a record in the place of the one with its id, or at the end. -/
def upsert (record : Instance) : List Instance → List Instance
  | [] => [record]
  | r :: rest => if r.id = record.id then record :: rest else r :: upsert record rest

def save (record : Instance) (s : InstanceStore) : InstanceStore × Check :=
  match record.validate with
  | .error f => (s, .error f)
  | .ok () => s.edit fun records => .ok (upsert record records, ())

/-- The failure of an operation on an id that is not there. -/
def unknown (id : String) : Failure := .notFound "instance" id

/-- Removes the record of an id and returns it. -/
def delete (id : String) (s : InstanceStore) : InstanceStore × Except Failure Instance :=
  s.edit fun records =>
    match records.find? (·.id == id) with
    | none => .error (unknown id)
    | some record => .ok (records.eraseP (·.id == id), record)

/-- Changes whether the first record of an id is enabled. -/
def withEnabled (id : String) (enabled : Bool) : List Instance → List Instance
  | [] => []
  | r :: rest =>
    if r.id = id then { r with enabled } :: rest else r :: withEnabled id enabled rest

def setEnabled (id : String) (enabled : Bool) (s : InstanceStore) : InstanceStore × Check :=
  s.edit fun records =>
    if records.any (·.id == id) then .ok (withEnabled id enabled records, ())
    else .error (unknown id)

/-- Every record in turn must be valid and its id must not come again. -/
def checkAll : List Instance → Check
  | [] => .ok ()
  | r :: rest => do
    r.validate
    Check.require (!rest.any (·.id == r.id)) "id" s!"duplicate id '{r.id}'"
    checkAll rest

/-- Puts other records in the place of all. -/
def replaceAll (records : List Instance) (s : InstanceStore) : InstanceStore × Check :=
  match checkAll records with
  | .error f => (s, .error f)
  | .ok () => s.edit fun _ => .ok (records, ())

/-- A store that starts with these records. -/
def ofRecords (records : List Instance) : Except Failure InstanceStore :=
  match empty.replaceAll records with
  | (s, .ok ()) => .ok s
  | (_, .error f) => .error f

end InstanceStore

end ProxyKeeper

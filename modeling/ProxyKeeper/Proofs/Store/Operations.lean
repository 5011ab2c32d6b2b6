/-
The operations on the two stores, each as one function of the watch that
holds the snapshot.

Whatever the operation, it publishes one snapshot and succeeds, or it fails
and leaves the watch as it is (`Edited`). A `StoreApi` carries this with its
operations, so what follows a store needs to know nothing else about it.
-/
import ProxyKeeper.Proofs.Watch
import ProxyKeeper.Store.Instances
import ProxyKeeper.Store.Profiles

namespace ProxyKeeper

variable {S β : Type}

/-- What an operation may leave of a watch: a publication, or the same and a failure. -/
def Edited (w : Watch S) (r : Watch S × Except Failure β) : Prop :=
  (∃ v b, r = (w.publish v, .ok b)) ∨ ∃ f, r = (w, .error f)

theorem edited_update (edit : S → Except Failure (S × β)) (w : Watch S) : Edited w (w.update edit) := by
  rcases Watch.update_cases edit w with ⟨v, b, -, h⟩ | ⟨f, -, h⟩
  · exact .inl ⟨v, b, h⟩
  · exact .inr ⟨f, h⟩

/-- Operations on a watched snapshot. -/
structure StoreApi (O S : Type) where
  run : O → Watch S → Watch S × Check
  edited : ∀ op w, Edited w (run op w)

/-- The result of an operation without what it returns. -/
def Check.of (result : Except Failure β) : Check := result.map fun _ => ()

theorem Edited.check {w v : Watch S} {result : Except Failure β} (h : Edited w (v, result)) :
    Edited w (v, Check.of result) := by
  rcases h with ⟨s, b, h⟩ | ⟨f, h⟩ <;> cases h
  · exact .inl ⟨s, (), rfl⟩
  · exact .inr ⟨f, rfl⟩

/-! ## instances -/

namespace InstanceStore

theorem edited_edit (s : InstanceStore) (f : List Instance → Except Failure (List Instance × β)) :
    Edited s.records ((s.edit f).1.records, (s.edit f).2) := edited_update f s.records

inductive Operation where
  | save (record : Instance)
  | delete (id : String)
  | setEnabled (id : String) (enabled : Bool)
  | replaceAll (records : List Instance)

def Operation.run : Operation → InstanceStore → InstanceStore × Check
  | .save record, s => s.save record
  | .delete id, s => ((s.delete id).1, Check.of (s.delete id).2)
  | .setEnabled id enabled, s => s.setEnabled id enabled
  | .replaceAll records, s => s.replaceAll records

theorem Operation.edited (op : Operation) (s : InstanceStore) :
    Edited s.records ((op.run s).1.records, (op.run s).2) := by
  cases op with
  | save record =>
    simp only [run, InstanceStore.save]
    split
    · rename_i f _
      exact .inr ⟨f, rfl⟩
    · exact edited_edit s _
  | delete id =>
    simp only [run, InstanceStore.delete]
    exact (edited_edit s _).check
  | setEnabled id enabled => exact edited_edit s _
  | replaceAll records =>
    simp only [run, InstanceStore.replaceAll]
    split
    · rename_i f _
      exact .inr ⟨f, rfl⟩
    · exact edited_edit s _

def api : StoreApi Operation (List Instance) where
  run op w := ((op.run ⟨w⟩).1.records, (op.run ⟨w⟩).2)
  edited op w := op.edited ⟨w⟩

end InstanceStore

/-! ## profiles -/

namespace ProfileStore

theorem edited_edit (s : ProfileStore) (f : ProfileSet → Except Failure (ProfileSet × β)) :
    Edited s.set ((s.edit f).1.set, (s.edit f).2) := edited_update f s.set

inductive Operation where
  | save (profile : Profile)
  | delete (id : String)
  | select (id : Option String)
  | setProxyPorts (http socks5 : UInt16)
  | setApiPort (port : UInt16)
  | replace (set : ProfileSet)

def Operation.run : Operation → ProfileStore → ProfileStore × Check
  | .save profile, s => s.save profile
  | .delete id, s => ((s.delete id).1, Check.of (s.delete id).2)
  | .select id, s => s.select id
  | .setProxyPorts http socks5, s => s.setProxyPorts http socks5
  | .setApiPort port, s => s.setApiPort port
  | .replace set, s => s.replace set

theorem Operation.edited (op : Operation) (s : ProfileStore) :
    Edited s.set ((op.run s).1.set, (op.run s).2) := by
  cases op with
  | save profile =>
    simp only [run, ProfileStore.save]
    split
    · rename_i f _
      exact .inr ⟨f, rfl⟩
    · exact edited_edit s _
  | delete id =>
    simp only [run, ProfileStore.delete]
    exact (edited_edit s _).check
  | select id => exact edited_edit s _
  | setProxyPorts http socks5 => exact edited_edit s _
  | setApiPort port => exact edited_edit s _
  | replace set =>
    simp only [run, ProfileStore.replace]
    split
    · rename_i f _
      exact .inr ⟨f, rfl⟩
    · exact edited_edit s _

def api : StoreApi Operation ProfileSet where
  run op w := ((op.run ⟨w⟩).1.set, (op.run ⟨w⟩).2)
  edited op w := op.edited ⟨w⟩

end ProfileStore

end ProxyKeeper

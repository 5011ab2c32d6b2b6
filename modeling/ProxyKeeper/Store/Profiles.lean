import ProxyKeeper.Profile.Basic
import ProxyKeeper.Watch

/-!
The store of profiles: a profile set that is valid at all times. An operation that fails changes
nothing and tells nobody.
-/

namespace ProxyKeeper

structure ProfileStore where
  set : Watch ProfileSet

namespace ProfileStore

def empty : ProfileStore := ⟨{ value := {} }⟩

def snapshot (s : ProfileStore) : ProfileSet := s.set.value

/-- Applies an edit to the set. -/
def edit {β : Type} (s : ProfileStore) (f : ProfileSet → Except Failure (ProfileSet × β)) :
    ProfileStore × Except Failure β :=
  let (set, result) := s.set.update f
  (⟨set⟩, result)

/-! ## edits -/

/-- Puts a profile in the place of the one with its id, or at the end. -/
def upsert (profile : Profile) : List Profile → List Profile
  | [] => [profile]
  | p :: rest => if p.id = profile.id then profile :: rest else p :: upsert profile rest

def save (profile : Profile) (s : ProfileStore) : ProfileStore × Check :=
  match profile.validate with
  | .error f => (s, .error f)
  | .ok () => s.edit fun set => .ok ({ set with profiles := upsert profile set.profiles }, ())

/-- The failure of an operation on an id that is not there. -/
def unknown (id : String) : Failure := .notFound "profile" id

/-- Removes the first profile of an id and returns it; a selection of that id is dropped. -/
def delete (id : String) (s : ProfileStore) : ProfileStore × Except Failure Profile :=
  s.edit fun set =>
    match set.profile? id with
    | none => .error (unknown id)
    | some profile =>
      .ok ({ set with
        profiles := set.profiles.eraseP (·.id == id)
        selected := if set.selected = some id then none else set.selected }, profile)

/-- Selects a profile of the set, or none. -/
def select (id : Option String) (s : ProfileStore) : ProfileStore × Check :=
  s.edit fun set =>
    match id with
    | none => .ok ({ set with selected := none }, ())
    | some id =>
      if (set.profile? id).isNone then .error (unknown id)
      else .ok ({ set with selected := some id }, ())

/-- A set that passes its check of ports. -/
def withPorts (set : ProfileSet) : Except Failure (ProfileSet × Unit) :=
  set.validatePorts.map fun () => (set, ())

def setProxyPorts (http socks5 : UInt16) (s : ProfileStore) : ProfileStore × Check :=
  s.edit fun set => withPorts { set with httpProxyPort := http, socks5ProxyPort := socks5 }

def setApiPort (port : UInt16) (s : ProfileStore) : ProfileStore × Check :=
  s.edit fun set => withPorts { set with apiServerPort := port }

/-- Puts another set in the place of the whole. -/
def replace (set : ProfileSet) (s : ProfileStore) : ProfileStore × Check :=
  match set.validate with
  | .error f => (s, .error f)
  | .ok () => s.edit fun _ => .ok (set, ())

/-- A store that starts with this set. -/
def ofSet (set : ProfileSet) : Except Failure ProfileStore :=
  set.validate.map fun () => ⟨{ value := set }⟩

end ProfileStore

end ProxyKeeper

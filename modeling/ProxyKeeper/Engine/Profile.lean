import ProxyKeeper.Engine.Basic
import ProxyKeeper.Engine.View

/-!
The engine of profiles: one handle, for the selected profile. Every pass releases the handle that is
held before it makes a new one, whether anything changed or not.
-/

namespace ProxyKeeper

/-- The set that an attempt was made with, and the handle or the message of a failure. -/
structure HeldProfile where
  set : ProfileSet
  resource : Except String Nat

namespace HeldProfile

def status (h : HeldProfile) : Status :=
  match h.resource with
  | .ok _ => .running
  | .error message => .failed message

end HeldProfile

namespace ProfileEngine

/-- Releases the handle that is held. -/
def retire (held : Option HeldProfile) (ledger : Ledger ProfileParams) : Ledger ProfileParams :=
  match held with
  | some ⟨_, .ok handle⟩ => ledger.destroy handle
  | some ⟨_, .error _⟩ | none => ledger

def pass (factory : Factory ProfileParams) (wanted : Option ProfileSet) :
    Option HeldProfile × Ledger ProfileParams → Option HeldProfile × Ledger ProfileParams
  | (held, ledger) =>
    let ledger := retire held ledger
    match wanted with
    | none => (none, ledger)
    | some set =>
      match set.params? with
      | none => (none, ledger)
      | some params =>
        let (ledger, resource) := ledger.create factory params
        (some ⟨set, resource⟩, ledger)

def trade : Trade ProfileSet ProfileParams (Option HeldProfile) ProfileView where
  nothing := none
  pass := pass
  view generation held := ⟨generation, true, held.map (·.set), held.map HeldProfile.status⟩
  initialView := {}

end ProfileEngine

abbrev ProfileEngine := Engine ProfileSet ProfileParams (Option HeldProfile) ProfileView

end ProxyKeeper

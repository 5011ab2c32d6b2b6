import ProxyKeeper.Engine.Basic
import ProxyKeeper.Engine.Plan
import ProxyKeeper.Engine.View

/-!
The engine of instances: one handle for every enabled instance. A pass releases what the plan
retires, in the order of ids, and then creates what is missing, in the order of the snapshot. A
handle lives as long as its instance is wanted with the same connection; so does a failed attempt,
which is not repeated.
-/

namespace ProxyKeeper

/-- What is held for one instance: the handle, or the message of the attempt that failed. -/
structure HeldInstance where
  fingerprint : Connection
  resource : Except String Nat

namespace HeldInstance

def status (h : HeldInstance) : InstanceStatus :=
  ⟨h.fingerprint,
    match h.resource with
    | .ok _ => .running
    | .error message => .failed message⟩

end HeldInstance

namespace InstanceEngine

/-- What is held and the calls made for it. -/
abbrev Stock := IdMap HeldInstance × Ledger Connection

/-- Drops the entry of an id and releases its handle. -/
def retire (stock : Stock) (id : String) : Stock :=
  match stock.1.get? id with
  | none => stock
  | some entry =>
    (stock.1.erase id,
      match entry.resource with
      | .ok handle => stock.2.destroy handle
      | .error _ => stock.2)

/-- Makes a handle for an instance and keeps the outcome. -/
def build (factory : Factory Connection) (stock : Stock) (i : Instance) : Stock :=
  let (ledger, resource) := stock.2.create factory i.connection
  (stock.1.insert i.id ⟨i.connection, resource⟩, ledger)

/-- Carries out a plan. -/
def carryOut (factory : Factory Connection) (plan : Plan) (stock : Stock) : Stock :=
  plan.create.foldl (build factory) (plan.retire.foldl retire stock)

def pass (factory : Factory Connection) (wanted : Option (List Instance)) (stock : Stock) : Stock :=
  carryOut factory (.compute (stock.1.map (·.fingerprint)) (wanted.getD [])) stock

def trade : Trade (List Instance) Connection (IdMap HeldInstance) InstanceView where
  nothing := ∅
  pass := pass
  view generation held := ⟨generation, true, held.map HeldInstance.status⟩
  initialView := {}

end InstanceEngine

abbrev InstanceEngine := Engine (List Instance) Connection (IdMap HeldInstance) InstanceView

end ProxyKeeper

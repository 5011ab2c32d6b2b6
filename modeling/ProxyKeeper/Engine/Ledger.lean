/-!
The ledger of an engine: every call to the factory that makes its handles, in order. A handle is a
number that no other handle of the ledger has, so the ledger says at any time which handles are
alive.

What a factory does with a call may depend on all calls before it. It decides only whether a handle
is made; which handle that is, is decided here.
-/

namespace ProxyKeeper

/-- A call to a factory and how it went. -/
inductive FactoryCall (P : Type) where
  | create (params : P) (outcome : Except String Nat)
  | destroy (handle : Nat)

/-- A factory: whether a handle for these parameters can be made after these calls, and if not, the
message that says why. -/
structure Factory (P : Type) where
  attempt : List (FactoryCall P) → P → Except String Unit

structure Ledger (P : Type) where
  calls : List (FactoryCall P)

namespace Ledger

variable {P : Type}

def empty : Ledger P := ⟨[]⟩

/-- The handle that a call made. -/
def made? : FactoryCall P → Option Nat
  | .create _ (.ok handle) => some handle
  | .create _ (.error _) | .destroy _ => none

/-- The handle that a call released. -/
def released? : FactoryCall P → Option Nat
  | .destroy handle => some handle
  | .create .. => none

/-- The handles made so far, in order. -/
def created (l : Ledger P) : List Nat := l.calls.filterMap made?

/-- The handles released so far, in order. -/
def destroyed (l : Ledger P) : List Nat := l.calls.filterMap released?

/-- The handles that are alive. -/
def alive (l : Ledger P) : List Nat := l.created.filter fun h => !l.destroyed.contains h

/-- Handles count from one. -/
def nextHandle (l : Ledger P) : Nat := l.created.length + 1

/-- Asks the factory for a handle. -/
def create (factory : Factory P) (params : P) (l : Ledger P) : Ledger P × Except String Nat :=
  let outcome := (factory.attempt l.calls params).map fun () => l.nextHandle
  (⟨l.calls ++ [.create params outcome]⟩, outcome)

/-- Gives a handle back. -/
def destroy (handle : Nat) (l : Ledger P) : Ledger P := ⟨l.calls ++ [.destroy handle]⟩

end Ledger

/-- The parameters of the handles that are alive after some calls. -/
def FactoryCall.held {P : Type} (calls : List (FactoryCall P)) : List P :=
  let gone := calls.filterMap Ledger.released?
  calls.filterMap fun
    | .create params (.ok handle) => if gone.contains handle then none else some params
    | .create _ (.error _) | .destroy _ => none

end ProxyKeeper

/-!
What asking a source for its next item comes to.
-/

namespace ProxyKeeper

inductive Delivery (α : Type) where
  | item (value : α)
  /-- Nothing is there now. -/
  | pending
  /-- Nothing will be there any more. -/
  | closed
  deriving Repr, DecidableEq

/-- The item that is delivered, if there is one. -/
def Delivery.item? {α : Type} : Delivery α → Option α
  | .item x => some x
  | .pending | .closed => none

end ProxyKeeper

import ProxyKeeper.IdMap
import ProxyKeeper.Instance.Basic

/-!
The difference between the proxies that are held and the instances that are wanted. `plan` only
decides: what to retire, what to create and what to keep.
-/

namespace ProxyKeeper

structure Plan where
  /-- Held ids that are no longer wanted, or wanted with another connection. -/
  retire : List String
  /-- Wanted instances that are not kept, in the order in which they are wanted. -/
  create : List Instance
  /-- Held ids that are wanted with the connection they have. -/
  keep : List String
  deriving DecidableEq

namespace Plan

def isNoop (p : Plan) : Bool := p.retire.isEmpty && p.create.isEmpty

/-- The enabled instances, of each id the first; `seen` are the ids met so far. -/
def wantedFrom (seen : List String) : List Instance → List Instance
  | [] => []
  | i :: rest =>
    if i.enabled && !seen.contains i.id then i :: wantedFrom (i.id :: seen) rest
    else wantedFrom seen rest

/-- The instances that ought to run. -/
def wanted (desired : List Instance) : List Instance := wantedFrom [] desired

/-- Whether an instance of this id is wanted with this very connection. -/
def isWanted (desired : List Instance) (id : String) (c : Connection) : Bool :=
  (wanted desired).any fun i => i.id == id && i.connection == c

/-- What leads from the connections that are held to the instances that are desired. -/
def compute (previous : IdMap Connection) (desired : List Instance) : Plan :=
  let keep := (previous.entries.filter fun (id, c) => isWanted desired id c).map (·.1)
  { retire := (previous.entries.filter fun (id, c) => !isWanted desired id c).map (·.1)
    create := (wanted desired).filter fun i => !keep.contains i.id
    keep }

end Plan

end ProxyKeeper

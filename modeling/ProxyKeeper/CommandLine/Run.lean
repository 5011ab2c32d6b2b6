import ProxyKeeper.CommandLine.Error
import ProxyKeeper.CommandLine.Options
import ProxyKeeper.Config.Setup
import ProxyKeeper.Engine.Listeners
import ProxyKeeper.Engine.Subscription

/-!
The command that runs a host: every view of the engine is printed, and every failure that the
coordinator reports.
-/

namespace ProxyKeeper.CommandLine

abbrev InstanceHost := Host (List Instance) Connection (IdMap HeldInstance) InstanceView

abbrev ProfileHost := Host ProfileSet ProfileParams (Option HeldProfile) ProfileView

/-! ## set-up -/

/-- A host for the instances of a configuration. -/
def startInstances (m : Memory) (env : Environment) (path : String) (c : Config) :
    Except (Stop Error) InstanceHost := do
  let settings ← (Config.hostSettings c).mapError (.failed ∘ .ofConfig path)
  let records ← (Config.instanceRecords env c).mapError (.failed ∘ .ofConfig path)
  let store ← (InstanceStore.ofRecords records).mapError (.failed ∘ .ofFailure)
  (Host.launch m InstanceEngine.trade settings store.records).mapError (·.map .ofFailure)

/-- A host for the profiles of a configuration. -/
def startProfile (m : Memory) (path : String) (c : Config) : Except (Stop Error) ProfileHost := do
  let settings ← (Config.hostSettings c).mapError (.failed ∘ .ofConfig path)
  let set ← (Config.profileSet c).mapError (.failed ∘ .ofConfig path)
  let store ← (ProfileStore.ofSet set).mapError (.failed ∘ .ofFailure)
  (Host.launch m ProfileEngine.trade settings store.set).mapError (·.map .ofFailure)

/-! ## the run -/

/-- What a run prints: on the standard output, and on the output for errors. -/
structure Transcript where
  lines : List String
  errors : List String
  deriving Repr, DecidableEq

/-- The line for a call to the host's service. -/
def hookLine? : HookCall → Option String
  | .reportFailure message => some s!"error: {message}"
  | .startService | .stopService => none

def errorLines {P : Type} (calls : List (HostCall P)) : List String :=
  calls.filterMap fun
    | .hook call => hookLine? call
    | .factory _ => none

/-- Runs a host whose store does not change any more and whose feed cannot be reached. The view of
the beginning is printed first; a run that is to end at once ends before the engine has made a pass. -/
def drive {S P H V : Type} [EngineView V] (trade : Trade S P H V) (factory : Factory P)
    (render : V → String) (stopAfter : Option Nat) (h : Host S P H V) : Transcript :=
  let views := Subscription.start h.engine.view
  let first := render views.current
  if stopAfter = some 0 then
    ⟨[first], errorLines (h.shutdown trade factory).calls⟩
  else
    let h := h.settle trade factory 0 fun _ => .refused
    let rest :=
      match (views.changed h.engine.view).2 with
      | .item view => [render view]
      | .pending | .closed => []
    ⟨first :: rest, errorLines (h.shutdown trade factory).calls⟩

/-- Runs what a configuration asks for. -/
def run (m : Memory) (env : Environment) (path : String) (style : Report.Style) (o : RunOptions) (c : Config) :
    Except (Stop Error) Transcript := do
  match o.mode.getD c.mode with
  | .instances =>
    let h ← startInstances m env path c
    return drive InstanceEngine.trade (Listeners.instances []) (Report.instances style) o.stopAfter h
  | .profile =>
    let h ← startProfile m path c
    return drive ProfileEngine.trade (Listeners.profiles []) (Report.profile style) o.stopAfter h

end ProxyKeeper.CommandLine

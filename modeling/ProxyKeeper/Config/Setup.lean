import ProxyKeeper.Config.Basic
import ProxyKeeper.Config.Environment
import ProxyKeeper.Config.Error
import ProxyKeeper.Host

/-!
What a configuration comes to: the settings of a host, the records of instances with their keys, the
profile set. `validate` checks what the mode needs and starts nothing.
-/

namespace ProxyKeeper.Config

/-- The passwords that the system keeps for the program, by their users. -/
abbrev Keyring := String → Option String

/-- A keyring without entries, or none. -/
def Keyring.empty : Keyring := fun _ => none

/-- The key of an instance: from its variable if that is set, else the one that the system keeps for the instance, else
the one that is written down. -/
def InstanceEntry.resolveKey (env : Environment) (e : InstanceEntry) (keyring : Keyring := .empty) :
    Except Error Secret :=
  match (e.keyEnv.bind env.get?) <|> keyring (e.identity ++ "/key") <|> e.key with
  | some key => .ok ⟨key⟩
  | none => .error (.noKey e.identity)

/-- A failure as one of the configuration. -/
def checked {α : Type} (r : Except Failure α) : Except Error α := r.mapError .ofFailure

/-- The instance that an entry configures. -/
def InstanceEntry.toInstance (env : Environment) (e : InstanceEntry) (keyring : Keyring := .empty) :
    Except Error Instance := do
  let key ← e.resolveKey env keyring
  let i : Instance :=
    ⟨e.identity, e.name, e.enabled, e.useWebsocket, ⟨e.serverHost, e.serverPort, key, e.bindAddress⟩⟩
  checked i.validate
  return i

/-- Every instance that is configured, in order. -/
def instanceRecords (env : Environment) (c : Config) (keyring : Keyring := .empty) : Except Error (List Instance) :=
  c.instances.mapM (·.toInstance env keyring)

/-- The profile set that is configured. -/
def profileSet (c : Config) : Except Error ProfileSet := do
  let set : ProfileSet :=
    ⟨c.profiles, c.activeProfile, c.ports.httpProxy, c.ports.socks5Proxy, c.ports.apiServer⟩
  checked set.validate
  return set

/-- The settings of the host that is to run. -/
def hostSettings (c : Config) : Except Error HostSettings :=
  let f := c.feed
  if f.reconnectInitial = 0 ∨ f.reconnectMax < f.reconnectInitial then
    .error (.validation "feed.reconnect_*"
      "initial delay must be non-zero and not exceed the maximum")
  else
    .ok
      { ingest :=
          { endpoint := f.endpoint
            backoff := ⟨f.reconnectInitial.toNat, f.reconnectMax.toNat⟩
            history := f.history.toNat
            live := f.live.toNat
            window := f.window.toNat }
        autostart := true
        feedPort := f.port }

/-- No two records may have one id. -/
def checkDistinct : List Instance → Except Error Unit
  | [] => .ok ()
  | r :: rest =>
    if rest.any (·.id == r.id) then .error (.validation "instances" s!"duplicate id '{r.id}'")
    else checkDistinct rest

/-- Checks everything that the mode needs. -/
def validate (env : Environment) (c : Config) (keyring : Keyring := .empty) : Except Error Unit := do
  let _ ← c.hostSettings
  match c.mode with
  | .instances => checkDistinct (← c.instanceRecords env keyring)
  | .profile =>
    let _ ← c.profileSet

end ProxyKeeper.Config

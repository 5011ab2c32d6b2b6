/-
Keys do not show in what the program says of a configuration.

Two runs differ only in what their keys are: in the keys that are written down,
in the variables that hold keys, and in the passwords that the system keeps. A
key is looked at in one place, where it may not be empty (`Connection.validate`);
so the runs have to agree on which keys are there and which of them are empty.
All else that is said of an instance is said of the instance with its key taken
out as well (`Instance.keyless`).

Which variables are settings does not matter here, since both configurations
are given.
-/
import Mathlib.Data.List.Forall2
import ProxyKeeper.CommandLine.Summary
import ProxyKeeper.Config.Setup
import ProxyKeeper.Config.Wording
import ProxyKeeper.Proofs.Results

namespace ProxyKeeper

/-! ## texts that may differ -/

/-- Both texts are missing, or both are there, and both are empty or neither is. -/
def SameUnread (a b : Option String) : Prop := a.map String.isEmpty = b.map String.isEmpty

theorem SameUnread.orElse {a a' b b' : Option String} (ha : SameUnread a a') (hb : SameUnread b b') :
    SameUnread (a <|> b) (a' <|> b') := by
  cases a with
  | none =>
    cases a' with
    | none => exact hb
    | some t' => cases ha
  | some t =>
    cases a' with
    | none => cases ha
    | some t' => exact ha

/-- The instance with its key taken out. -/
def Instance.keyless (i : Instance) : Instance := { i with connection := { i.connection with key := ⟨""⟩ } }

/-- The instance that an entry comes to with a key. -/
def Config.InstanceEntry.withKey (e : InstanceEntry) (key : Secret) : Instance :=
  ⟨e.identity, e.name, e.enabled, e.useWebsocket, ⟨e.serverHost, e.serverPort, key, e.bindAddress⟩⟩

/-- Of a key the check sees no more than whether it is empty. -/
theorem Config.InstanceEntry.validate_withKey (e : InstanceEntry) {key key' : Secret}
    (h : key.reveal.isEmpty = key'.reveal.isEmpty) : (e.withKey key).validate = (e.withKey key').validate := by
  simp only [withKey, Instance.validate, Connection.validate, h]
  rfl

theorem Config.checkDistinct_keyless (records : List Instance) :
    checkDistinct (records.map Instance.keyless) = checkDistinct records := by
  induction records with
  | nil => rfl
  | cons r rest ih =>
    rw [List.map_cons, checkDistinct, checkDistinct, ih, List.any_map]
    rfl

namespace Config

/-! ## two configurations, and where their keys come from -/

structure InstanceEntry.SameButKey (e e' : InstanceEntry) : Prop where
  rest : e' = { e with key := e'.key }
  key : SameUnread e.key e'.key

structure SameButKeys (c c' : Config) : Prop where
  rest : c' = { c with instances := c'.instances }
  instances : List.Forall₂ InstanceEntry.SameButKey c.instances c'.instances

/-- Two runs find keys in the same places. Nothing is said of any other variable or password. -/
structure InstanceEntry.SameSources (e : InstanceEntry) (env env' : Environment) (keyring keyring' : Keyring) :
    Prop where
  named : ∀ name, e.keyEnv = some name → SameUnread (env.get? name) (env'.get? name)
  kept : SameUnread (keyring (e.identity ++ "/key")) (keyring' (e.identity ++ "/key"))

variable {env env' : Environment} {keyring keyring' : Keyring} {e e' : InstanceEntry} {c c' : Config}

/-- Both runs find a key, or both complain of the same. -/
theorem InstanceEntry.SameButKey.resolveKey (he : e.SameButKey e') (hs : e.SameSources env env' keyring keyring') :
    (e.resolveKey env keyring).map (·.reveal.isEmpty) = (e'.resolveKey env' keyring').map (·.reveal.isEmpty) := by
  have hnamed : SameUnread (e.keyEnv.bind env.get?) (e.keyEnv.bind env'.get?) := by
    cases hname : e.keyEnv with
    | none => rfl
    | some name => exact hs.named name hname
  have hfound := hnamed.orElse (hs.kept.orElse he.key)
  have hkeyEnv : e'.keyEnv = e.keyEnv := by rw [he.rest]
  have hidentity : e'.identity = e.identity := by rw [he.rest]; rfl
  rw [InstanceEntry.resolveKey, InstanceEntry.resolveKey, hkeyEnv, hidentity]
  generalize (e.keyEnv.bind env.get? <|> keyring (e.identity ++ "/key") <|> e.key) = found at hfound ⊢
  generalize (e.keyEnv.bind env'.get? <|> keyring' (e.identity ++ "/key") <|> e'.key) = found' at hfound ⊢
  cases found with
  | none =>
    cases found' with
    | none => rfl
    | some key' => cases hfound
  | some key =>
    cases found' with
    | none => cases hfound
    | some key' => exact congrArg Except.ok (Option.some.inj hfound)

theorem InstanceEntry.toInstance_eq (e : InstanceEntry) (env : Environment) (keyring : Keyring) :
    e.toInstance env keyring =
      e.resolveKey env keyring >>= fun key => (checked (e.withKey key).validate).map fun _ => e.withKey key := by
  rw [toInstance]
  cases e.resolveKey env keyring with
  | error complaint => rfl
  | ok key =>
    show (checked (e.withKey key).validate >>= fun _ => pure (e.withKey key)) = _
    cases hc : checked (e.withKey key).validate <;> simp [hc, Except.map, bind, Except.bind, pure, Except.pure]

/-- Both runs make the same instance up to its key, or both complain of the same. -/
theorem InstanceEntry.SameButKey.toInstance (he : e.SameButKey e') (hs : e.SameSources env env' keyring keyring') :
    (e.toInstance env keyring).map Instance.keyless = (e'.toInstance env' keyring').map Instance.keyless := by
  have hkey := he.resolveKey hs
  have hmake : e'.withKey = e.withKey := by rw [he.rest]; rfl
  rw [toInstance_eq, toInstance_eq, hmake]
  generalize e.resolveKey env keyring = found at hkey ⊢
  generalize e'.resolveKey env' keyring' = found' at hkey ⊢
  cases found with
  | error complaint =>
    cases found' with
    | error complaint' =>
      cases hkey
      rfl
    | ok key' => cases hkey
  | ok key =>
    cases found' with
    | error complaint' => cases hkey
    | ok key' =>
      have hcheck := e.validate_withKey (Except.ok.inj hkey)
      show ((checked (e.withKey key).validate).map _).map _ = ((checked (e.withKey key').validate).map _).map _
      rw [hcheck]
      cases checked (e.withKey key').validate <;> rfl

/-- Results that agree one by one agree as a whole. -/
theorem map_mapM_congr {α β γ ε : Type} {f f' : α → Except ε β} (g : β → γ) {l l' : List α}
    (h : List.Forall₂ (fun a a' => (f a).map g = (f' a').map g) l l') :
    (l.mapM f).map (List.map g) = (l'.mapM f').map (List.map g) := by
  have inside (x : Except ε β) (xs : Except ε (List β)) :
      (x >>= fun b => xs >>= fun bs => pure (b :: bs)).map (List.map g) =
        x.map g >>= fun c => xs.map (List.map g) >>= fun cs => pure (c :: cs) := by
    cases x <;> cases xs <;> rfl
  induction h with
  | nil => rfl
  | cons ha _ ih => rw [List.mapM_cons, List.mapM_cons, inside, inside, ha, ih]

theorem SameButKeys.instanceRecords (hc : c.SameButKeys c')
    (hs : ∀ e ∈ c.instances, e.SameSources env env' keyring keyring') :
    (c.instanceRecords env keyring).map (List.map Instance.keyless) =
      (c'.instanceRecords env' keyring').map (List.map Instance.keyless) := by
  have hentries := (List.forall₂_and_left c.instances c'.instances).2 ⟨hs, hc.instances⟩
  exact map_mapM_congr Instance.keyless (hentries.imp fun _ _ h => h.2.toInstance h.1)

/-- What is made of the records with their keys taken out is made of the records. -/
theorem map_of_keyless {α : Type} {r r' : Except Error (List Instance)}
    (h : r.map (List.map Instance.keyless) = r'.map (List.map Instance.keyless)) {see : List Instance → α}
    (hsee : ∀ records, see (records.map Instance.keyless) = see records) : r.map see = r'.map see := by
  have hblind (r : Except Error (List Instance)) : (r.map (List.map Instance.keyless)).map see = r.map see := by
    cases r with
    | error complaint => rfl
    | ok records => exact congrArg Except.ok (hsee records)
  rw [← hblind r, h, hblind]

theorem validate_of_instances (h : c.mode = .instances) :
    c.validate env keyring = c.hostSettings >>= fun _ => (c.instanceRecords env keyring).map checkDistinct >>= id := by
  rw [Config.validate, h]
  cases c.hostSettings with
  | error complaint => rfl
  | ok settings => cases c.instanceRecords env keyring <;> rfl

theorem validate_of_profile (h : c.mode = .profile) :
    c.validate env keyring = c.hostSettings >>= fun _ => c.profileSet >>= fun _ => pure () := by
  rw [Config.validate, h]

theorem SameButKeys.validate (hc : c.SameButKeys c')
    (hs : ∀ e ∈ c.instances, e.SameSources env env' keyring keyring') :
    c.validate env keyring = c'.validate env' keyring' := by
  have hmode : c'.mode = c.mode := (congrArg Config.mode hc.rest).trans rfl
  have hhost : c'.hostSettings = c.hostSettings := (congrArg Config.hostSettings hc.rest).trans rfl
  have hset : c'.profileSet = c.profileSet := (congrArg Config.profileSet hc.rest).trans rfl
  cases h : c.mode with
  | instances =>
    have hrecords := map_of_keyless (hc.instanceRecords hs) checkDistinct_keyless
    rw [validate_of_instances h, validate_of_instances (hmode.trans h), hrecords, hhost]
  | profile => rw [validate_of_profile h, validate_of_profile (hmode.trans h), hhost, hset]

end Config

namespace CommandLine

end CommandLine

/-- Whether a key is empty does show. -/
example :
    let config (key : String) : Config :=
      { instances := [⟨none, "a", true, false, "relay", 443, "127.0.0.1:1080", some key, none⟩] }
    ((config "").validate []).mapError Config.Error.message = .error "invalid key: must not be empty" ∧
      (config "one").validate [] = .ok () :=
  ⟨by rfl, by rfl⟩

end ProxyKeeper

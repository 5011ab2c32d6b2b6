import ProxyKeeper.Config.Basic
import ProxyKeeper.Config.Error
import ProxyKeeper.Config.Environment
import ProxyKeeper.Profile.Wire
import ProxyKeeper.Toml.Reader

/-!
Reading a configuration in three layers: the defaults, over them a TOML file, and the environment over
both. Names that mean nothing are passed over; what a section given by position leaves out has its
default as well.
-/

namespace ProxyKeeper.Config

open Data

/-! ## the parts -/

def Mode.name : Mode → String
  | .instances => "instances"
  | .profile => "profile"

def Mode.ofName? (name : String) : Option Mode :=
  [Mode.instances, Mode.profile].find? (·.name == name)

def Mode.label : String := "enum Mode"

/-- A mode is named by a text. A group could name one by its first entry, but modes have no contents
that the entry could hold. -/
def Mode.take {κ ι : Type} : Take κ ι Mode
  | .text mark name =>
    match Mode.ofName? name with
    | some mode => .ok mode
    | none => .error (.mismatch mark (.unknownVariant name ["instances", "profile"]))
  | .fields mark [] _ => .error (.mismatch mark (.wrongType .fields "enum"))
  | .fields mark ((_, _, name, contents) :: _) _ =>
    match Mode.ofName? name with
    | some _ => Take.refuse "unit" contents
    | none => .error (.mismatch mark (.unknownVariant name ["instances", "profile"]))
  | d => Take.refuse Mode.label d

/-- A natural number of 64 bits. -/
def takeLong {κ ι : Type} (label : String) : Take κ ι UInt64 :=
  (Take.natural UInt64.size label).map Nat.toUInt64

/-- A record given by position in a list may be followed by further elements, which mean nothing. -/
def takeRecord {κ ι α : Type} (shape : Shape κ ι α) : Take κ ι α
  | .list mark items ending => shape.take (.list mark (items.take shape.fields.length) ending)
  | d => shape.take d

def FeedSettings.shape {κ ι : Type} : Shape κ ι FeedSettings :=
  ⟨"struct FeedSettings",
    [.of "scheme" .allowed Take.text fun v s => { s with endpoint := { s.endpoint with scheme := v } },
      .of "host" .allowed Take.text fun v s => { s with endpoint := { s.endpoint with host := v } },
      .of "path" .allowed Take.text fun v s => { s with endpoint := { s.endpoint with path := v } },
      .of "port" .allowed (Take.orNull Take.port) fun v s => { s with port := v },
      .of "reconnect_initial_ms" .allowed (takeLong "u64") fun v s => { s with reconnectInitial := v },
      .of "reconnect_max_ms" .allowed (takeLong "u64") fun v s => { s with reconnectMax := v },
      .of "history" .allowed (takeLong "usize") fun v s => { s with history := v },
      .of "live_capacity" .allowed (takeLong "usize") fun v s => { s with live := v },
      .of "batch_ms" .allowed (takeLong "u64") fun v s => { s with window := v }],
    {}⟩

def Ports.shape {κ ι : Type} : Shape κ ι Ports :=
  ⟨"struct Ports",
    [.of "http_proxy" .allowed Take.port fun v s => { s with httpProxy := v },
      .of "socks5_proxy" .allowed Take.port fun v s => { s with socks5Proxy := v },
      .of "api_server" .allowed Take.port fun v s => { s with apiServer := v }],
    {}⟩

def profileShape {κ ι : Type} : Shape κ ι Profile :=
  ⟨"struct ProfileEntry",
    [.of "id" .refused Take.text fun v p => { p with id := v },
      .of "name" .refused Take.text fun v p => { p with name := v },
      .of "main_server_url" .refused Take.text fun v p => { p with mainServerUrl := v },
      .of "ai_server_url" .allowedByName (Take.orNull Take.text) fun v p => { p with aiServerUrl := v },
      .of "tailscale_server_url" .allowedByName (Take.orNull Take.text) fun v p =>
        { p with tailscaleServerUrl := v }],
    ⟨"", "", "", none, none⟩⟩

def InstanceEntry.shape {κ ι : Type} : Shape κ ι InstanceEntry :=
  ⟨"struct InstanceEntry",
    [.of "id" .allowedByName (Take.orNull Take.text) fun v e => { e with id := v },
      .of "name" .refused Take.text fun v e => { e with name := v },
      .of "enabled" .allowed Take.flag fun v e => { e with enabled := v },
      .of "use_websocket" .allowed Take.flag fun v e => { e with useWebsocket := v },
      .of "server_host" .refused Take.text fun v e => { e with serverHost := v },
      .of "server_port" .refused Take.port fun v e => { e with serverPort := v },
      .of "bind_address" .refused Take.text fun v e => { e with bindAddress := v },
      .of "key" .allowedByName (Take.orNull Take.text) fun v e => { e with key := v },
      .of "key_env" .allowedByName (Take.orNull Take.text) fun v e => { e with keyEnv := v }],
    ⟨none, "", true, false, "", 0, "", none, none⟩⟩

def shape {κ ι : Type} : Shape κ ι Config :=
  ⟨"struct Config",
    [.of "mode" .allowed Mode.take fun v c => { c with mode := v },
      .of "feed" .allowed (takeRecord FeedSettings.shape) fun v c => { c with feed := v },
      .of "ports" .allowed (takeRecord Ports.shape) fun v c => { c with ports := v },
      .of "active_profile" .allowedByName (Take.orNull Take.text) fun v c => { c with activeProfile := v },
      .of "profiles" .allowed (Take.listOf (takeRecord profileShape)) fun v c => { c with profiles := v },
      .of "instances" .allowed (Take.listOf (takeRecord InstanceEntry.shape)) fun v c =>
        { c with instances := v }],
    {}⟩

/-! ## the defaults as settings -/

def FeedSettings.toSetting (s : FeedSettings) : Setting :=
  .group
    [("batch_ms", .number (.natural s.window.toNat)), ("history", .number (.natural s.history.toNat)),
      ("host", .text s.endpoint.host), ("live_capacity", .number (.natural s.live.toNat)),
      ("path", .text s.endpoint.path),
      ("port", (s.port.map fun p => .number (.natural p.toNat)).getD .null),
      ("reconnect_initial_ms", .number (.natural s.reconnectInitial.toNat)),
      ("reconnect_max_ms", .number (.natural s.reconnectMax.toNat)), ("scheme", .text s.endpoint.scheme)]

def Ports.toSetting (s : Ports) : Setting :=
  .group
    [("api_server", .number (.natural s.apiServer.toNat)), ("http_proxy", .number (.natural s.httpProxy.toNat)),
      ("socks5_proxy", .number (.natural s.socks5Proxy.toNat))]

/-- The configuration of who sets nothing, which has no profiles and no instances. -/
def defaults : Setting :=
  let c : Config := {}
  .group
    [("active_profile", (c.activeProfile.map Setting.text).getD .null), ("feed", c.feed.toSetting),
      ("instances", .list []), ("mode", .text c.mode.name), ("ports", c.ports.toSetting), ("profiles", .list [])]

/-! ## the whole -/

/-- The configuration that settings give. -/
def ofSetting (s : Setting) : Except Error Config :=
  match (shape : Shape (List String) Empty Config).take (s.datum []) with
  | .ok config => .ok config
  | .error (.mismatch path cause) => .error (.mismatch path cause)

/-- The settings of a file; a file that is not there gives none. -/
def fileSettings : Option String → Except Error Setting
  | none => .ok (.group [])
  | some text =>
    match Toml.read? text with
    | some entries => .ok (.ofToml (.table entries))
    | none => .error (.malformed "invalid TOML")

/-- Loads a configuration from the defaults, the text of a file, if there is one, and the environment. -/
def load (file : Option String) (env : Environment) : Except Error Config := do
  ofSetting ((defaults.overlay (← fileSettings file)).overlay env.settings)

end ProxyKeeper.Config

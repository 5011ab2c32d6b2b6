import ProxyKeeper.Failure
import ProxyKeeper.Text.Blank
import ProxyKeeper.Url.Parser

/-!
Server profiles: named groups of server addresses, of which at most one is selected, and the three
local ports that the engine uses for the selected one.
-/

namespace ProxyKeeper

structure Profile where
  id : String
  name : String
  mainServerUrl : String
  aiServerUrl : Option String
  tailscaleServerUrl : Option String
  deriving Repr, DecidableEq, BEq

/-- A field that must hold a URL. -/
def Check.url (field value : String) : Check :=
  if Text.isAllBlank value then .error (.validation field "must not be empty")
  else
    match Url.parse value with
    | .ok _ => .ok ()
    | .error cause => .error (.validation field s!"'{value}': {cause.message}")

namespace Profile

/-- A new profile under an id of its own. -/
def create (id name mainServerUrl : String) : Profile := ⟨id, name, mainServerUrl, none, none⟩

def validate (p : Profile) : Check := do
  Check.require (!Text.isAllBlank p.name) "name" "must not be empty"
  Check.url "main_server_url" p.mainServerUrl
  if let some url := p.aiServerUrl then Check.url "ai_server_url" url
  if let some url := p.tailscaleServerUrl then Check.url "tailscale_server_url" url

end Profile

/-- What the engine of a profile is started with. -/
structure ProfileParams where
  httpProxyPort : UInt16
  socks5ProxyPort : UInt16
  apiServerPort : UInt16
  mainServerUrl : String
  aiServerUrl : Option String
  tailscaleServerUrl : Option String
  deriving Repr, DecidableEq, BEq

structure ProfileSet where
  profiles : List Profile := []
  selected : Option String := none
  httpProxyPort : UInt16 := 8080
  socks5ProxyPort : UInt16 := 1080
  apiServerPort : UInt16 := 3010
  deriving Repr, DecidableEq, BEq, Inhabited

namespace ProfileSet

def profile? (s : ProfileSet) (id : String) : Option Profile := s.profiles.find? (·.id == id)

/-- The selected profile, if the selection names one of the set. -/
def selectedProfile? (s : ProfileSet) : Option Profile := s.selected.bind s.profile?

/-- What to start the engine with; none without a selection. -/
def params? (s : ProfileSet) : Option ProfileParams :=
  s.selectedProfile?.map fun p =>
    ⟨s.httpProxyPort, s.socks5ProxyPort, s.apiServerPort, p.mainServerUrl, p.aiServerUrl,
      p.tailscaleServerUrl⟩

/-- The ports by the names of their fields. -/
def ports (s : ProfileSet) : List (String × UInt16) :=
  [("http_proxy_port", s.httpProxyPort), ("socks5_proxy_port", s.socks5ProxyPort),
    ("api_server_port", s.apiServerPort)]

/-- Every port in turn must be in range and not be used again by a later one. -/
def checkPorts : List (String × UInt16) → Check
  | [] => .ok ()
  | (field, port) :: rest => do
    Check.require (port != 0) field "must be between 1 and 65535"
    match rest.find? (·.2 == port) with
    | some (other, _) => throw (.validation field s!"port {port} is also used by {other}")
    | none => checkPorts rest

def validatePorts (s : ProfileSet) : Check := checkPorts s.ports

def validate (s : ProfileSet) : Check := do
  s.validatePorts
  s.profiles.forM Profile.validate
  match s.selected with
  | none => pure ()
  | some id => if (s.profile? id).isNone then throw (.notFound "profile" id)

end ProfileSet

end ProxyKeeper

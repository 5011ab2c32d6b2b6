import ProxyKeeper.Data.Record
import ProxyKeeper.Json.Decode
import ProxyKeeper.Json.Member
import ProxyKeeper.Profile.Basic

/-!
Profiles and profile sets in JSON. A profile leaves out the addresses that it does not have; a set
writes all its members and can be read with any of them missing.
-/

namespace ProxyKeeper

open Data

/-- A port of a local listener. -/
def Data.Take.port {κ ι : Type} : Take κ ι UInt16 := (Take.natural UInt16.size "u16").map Nat.toUInt16

namespace Profile

def toJson (p : Profile) : Json :=
  let optional (name : String) (url : Option String) : List (String × Json) :=
    (url.map fun url => Json.entry name url).toList
  .object ([Json.entry "id" p.id, Json.entry "name" p.name,
      Json.entry "main_server_url" p.mainServerUrl]
    ++ optional "ai_server_url" p.aiServerUrl ++ optional "tailscale_server_url" p.tailscaleServerUrl)

instance : ToJson Profile := ⟨Profile.toJson⟩

def shape {κ ι : Type} : Shape κ ι Profile :=
  ⟨"struct Profile",
    [.of "id" .refused Take.text fun v p => { p with id := v },
      .of "name" .refused Take.text fun v p => { p with name := v },
      .of "main_server_url" .refused Take.text fun v p => { p with mainServerUrl := v },
      .of "ai_server_url" .allowed (Take.orNull Take.text) fun v p => { p with aiServerUrl := v },
      .of "tailscale_server_url" .allowed (Take.orNull Take.text) fun v p =>
        { p with tailscaleServerUrl := v }],
    ⟨"", "", "", none, none⟩⟩

def decode (text : String) : Except Json.DecodeError Profile := Json.decodePlaced shape.take text.toList

def ofJson (v : Json) : Except Json.DecodeError Profile := Json.decodeValue shape.take v

end Profile

namespace ProfileSet

def toJson (s : ProfileSet) : Json :=
  .object [Json.entry "profiles" s.profiles, Json.entry "enabled_profile_id" s.selected,
    Json.entry "http_proxy_port" s.httpProxyPort, Json.entry "socks5_proxy_port" s.socks5ProxyPort,
    Json.entry "api_server_port" s.apiServerPort]

instance : ToJson ProfileSet := ⟨ProfileSet.toJson⟩

def shape {κ ι : Type} : Shape κ ι ProfileSet :=
  ⟨"struct ProfileSet",
    [.of "profiles" .allowed (Take.listOf Profile.shape.take) fun v s => { s with profiles := v },
      .of "enabled_profile_id" .allowed (Take.orNull Take.text) fun v s => { s with selected := v },
      .of "http_proxy_port" .allowed Take.port fun v s => { s with httpProxyPort := v },
      .of "socks5_proxy_port" .allowed Take.port fun v s => { s with socks5ProxyPort := v },
      .of "api_server_port" .allowed Take.port fun v s => { s with apiServerPort := v }],
    {}⟩

def decode (text : String) : Except Json.DecodeError ProfileSet :=
  Json.decodePlaced shape.take text.toList

def ofJson (v : Json) : Except Json.DecodeError ProfileSet := Json.decodeValue shape.take v

end ProfileSet

end ProxyKeeper

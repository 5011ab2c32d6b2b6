/-
Profiles and profile sets in JSON: a set that is written is read back, and so
is what is left of it when some of its members are taken out, which are then
at their defaults.

The two levels treat what is not there differently. A profile leaves out the
addresses that it does not have, so its members depend on it (`Profile.tells`
goes through the cases). A set always writes its five members, null standing
for no selection, and may be read without any of them (`ProfileSet.tells`).
-/
import ProxyKeeper.Proofs.Json.Records
import ProxyKeeper.Profile.Wire

namespace ProxyKeeper

open Data

variable {κ ι : Type}

theorem Data.Take.reads_port (n : UInt16) : (Take.port : Take κ ι UInt16).Reads (toJson n) n := by
  have h := (reads_natural (κ := κ) (ι := ι) n.toNat_lt "u16").map Nat.toUInt16
  rwa [show n.toNat.toUInt16 = n by simp] at h

/-! ## profiles -/

namespace Profile

def slots : List (Slot κ ι Profile) :=
  [⟨"id", [], .refused, String, Take.text, Profile.id, fun v p => { p with id := v }⟩,
    ⟨"name", [], .refused, String, Take.text, Profile.name, fun v p => { p with name := v }⟩,
    ⟨"main_server_url", [], .refused, String, Take.text, mainServerUrl, fun v p => { p with mainServerUrl := v }⟩,
    ⟨"ai_server_url", [], .allowed, Option String, Take.orNull Take.text, aiServerUrl,
      fun v p => { p with aiServerUrl := v }⟩,
    ⟨"tailscale_server_url", [], .allowed, Option String, Take.orNull Take.text, tailscaleServerUrl,
      fun v p => { p with tailscaleServerUrl := v }⟩]

theorem slotted : Slotted shape (slots : List (Slot κ ι Profile)) where
  fields := rfl
  distinct := by simp [slots, Slot.names]
  get_put := by simp [slots]
  get_put_of_ne := by simp [slots]

theorem eq_of_slots {p q : Profile} (h : ∀ x ∈ (slots : List (Slot κ ι Profile)), x.get q = x.get p) : q = p := by
  obtain ⟨id, name, main, ai, tailscale⟩ := p
  obtain ⟨id', name', main', ai', tailscale'⟩ := q
  simpa [slots] using h

/-- The members of a profile: an address that it does not have is left out. -/
def members (p : Profile) : List (String × Json) :=
  [Json.entry "id" p.id, Json.entry "name" p.name, Json.entry "main_server_url" p.mainServerUrl] ++
    (p.aiServerUrl.map (Json.entry "ai_server_url")).toList ++
    (p.tailscaleServerUrl.map (Json.entry "tailscale_server_url")).toList

theorem toJson_eq (p : Profile) : p.toJson = .object p.members := rfl

/-- An address is written as its text and read as an address that is there. -/
theorem reads_address (url : String) :
    (Take.orNull Take.text : Take κ ι (Option String)).Reads (ToJson.toJson url) (some url) :=
  Take.reads_orNull Take.reads_text (fun _ h => by cases h) (some url)

theorem tells (p : Profile) : Slotted.Tells (slots : List (Slot κ ι Profile)) (shape (κ := κ) (ι := ι)).blank p p.members := by
  obtain ⟨id, name, main, ai, tailscale⟩ := p
  cases ai <;> cases tailscale <;>
    exact {
      distinct := by simp [members, Json.entry]
      given := by simp [members, Json.entry, slots, Take.reads_text, reads_address]
      omitted := by simp [members, Json.entry, slots, shape] }

theorem reads_toJson (p : Profile) : (shape.take : Take κ ι Profile).Reads p.toJson p :=
  slotted.reads_object p.tells fun _ => eq_of_slots

/-- What is written of an address is the address if there is one, and nothing if there is none. -/
theorem get?_toJson (p : Profile) :
    p.toJson.get? "ai_server_url" = p.aiServerUrl.map .string ∧
      p.toJson.get? "tailscale_server_url" = p.tailscaleServerUrl.map .string := by
  obtain ⟨id, name, main, ai, tailscale⟩ := p
  cases ai <;> cases tailscale <;> exact ⟨rfl, rfl⟩

theorem readable_toJson {left : Nat} (hleft : 1 < left) (p : Profile) : p.toJson.Readable left := by
  obtain ⟨id, name, main, ai, tailscale⟩ := p
  cases ai <;> cases tailscale <;>
    simp [toJson, Json.Readable, Json.ReadableMembers, Json.entry, ToJson.toJson, hleft]

end Profile

/-! ## sets -/

/-- An object without its members of these names. -/
def Json.without (removed : List String) : Json → Json
  | .object members => .object (members.filter fun m => !removed.contains m.1)
  | v => v

namespace ProfileSet

/-- A set with the members of these names at their defaults. -/
def without (removed : List String) (s : ProfileSet) : ProfileSet :=
  let default : ProfileSet := {}
  { profiles := if "profiles" ∈ removed then default.profiles else s.profiles
    selected := if "enabled_profile_id" ∈ removed then default.selected else s.selected
    httpProxyPort := if "http_proxy_port" ∈ removed then default.httpProxyPort else s.httpProxyPort
    socks5ProxyPort := if "socks5_proxy_port" ∈ removed then default.socks5ProxyPort else s.socks5ProxyPort
    apiServerPort := if "api_server_port" ∈ removed then default.apiServerPort else s.apiServerPort }

def slots : List (Slot κ ι ProfileSet) :=
  [⟨"profiles", [], .allowed, List Profile, Take.listOf Profile.shape.take, profiles,
      fun v s => { s with profiles := v }⟩,
    ⟨"enabled_profile_id", [], .allowed, Option String, Take.orNull Take.text, selected,
      fun v s => { s with selected := v }⟩,
    ⟨"http_proxy_port", [], .allowed, UInt16, Take.port, httpProxyPort, fun v s => { s with httpProxyPort := v }⟩,
    ⟨"socks5_proxy_port", [], .allowed, UInt16, Take.port, socks5ProxyPort, fun v s => { s with socks5ProxyPort := v }⟩,
    ⟨"api_server_port", [], .allowed, UInt16, Take.port, apiServerPort, fun v s => { s with apiServerPort := v }⟩]

theorem slotted : Slotted shape (slots : List (Slot κ ι ProfileSet)) where
  fields := rfl
  distinct := by simp [slots, Slot.names]
  get_put := by simp [slots]
  get_put_of_ne := by simp [slots]

theorem eq_of_slots {s t : ProfileSet} (h : ∀ x ∈ (slots : List (Slot κ ι ProfileSet)), x.get t = x.get s) : t = s := by
  obtain ⟨profiles, selected, http, socks5, api⟩ := s
  obtain ⟨profiles', selected', http', socks5', api'⟩ := t
  simpa [slots] using h

/-- The members of a set, all of which are always written. -/
def members (s : ProfileSet) : List (String × Json) :=
  [Json.entry "profiles" s.profiles, Json.entry "enabled_profile_id" s.selected,
    Json.entry "http_proxy_port" s.httpProxyPort, Json.entry "socks5_proxy_port" s.socks5ProxyPort,
    Json.entry "api_server_port" s.apiServerPort]

theorem tells (s : ProfileSet) : Slotted.Tells (slots : List (Slot κ ι ProfileSet)) {} s s.members where
  distinct := by simp [members, Json.entry]
  given := by
    have hprofiles := Take.reads_list (κ := κ) (ι := ι) Profile.reads_toJson s.profiles
    have hselected := Take.reads_orNull (κ := κ) (ι := ι) Take.reads_text (fun _ h => by cases h) s.selected
    simp [members, Json.entry, slots, Take.reads_port, hprofiles, hselected]
  omitted := by simp [members, Json.entry, slots]

/-- What is left of the members tells the set with the others at their defaults. -/
theorem tells_without (s : ProfileSet) (removed : List String) :
    Slotted.Tells (slots : List (Slot κ ι ProfileSet)) {} (s.without removed)
      (s.members.filter fun m => !removed.contains m.1) := by
  refine s.tells.filter (fun name => !removed.contains name) ?_ ?_ <;>
    simp +contextual [slots, without]

theorem reads_without (s : ProfileSet) (removed : List String) :
    (shape.take : Take κ ι ProfileSet).Reads (s.toJson.without removed) (s.without removed) :=
  slotted.reads_object (s.tells_without removed) fun _ => eq_of_slots

theorem readable_without (s : ProfileSet) (removed : List String) :
    (s.toJson.without removed).Readable Json.depthLimit := by
  have hport : ∀ n : UInt16, (ToJson.toJson n).Readable (Json.depthLimit - 1) := fun n =>
    ⟨n.toNat, Nat.lt_trans n.toNat_lt (by decide), rfl⟩
  have hselected : (ToJson.toJson s.selected).Readable (Json.depthLimit - 1) := by
    cases s.selected <;> trivial
  have hprofiles : (ToJson.toJson s.profiles).Readable (Json.depthLimit - 1) := by
    refine ⟨by decide, Json.readableItems_iff.2 fun v hv => ?_⟩
    obtain ⟨p, -, rfl⟩ := List.mem_map.1 hv
    exact p.readable_toJson (by decide)
  have hall : ∀ m ∈ s.members, m.2.Readable (Json.depthLimit - 1) := by
    simp [members, Json.entry, hport, hselected, hprofiles]
  exact ⟨by decide, Json.readableMembers_iff.2 fun m hm => hall m (List.mem_filter.1 hm).1⟩

theorem toJson_without_nil (s : ProfileSet) : s.toJson.without [] = s.toJson := rfl

theorem without_nil (s : ProfileSet) : s.without [] = s := rfl

theorem decode_without (s : ProfileSet) (removed : List String) :
    decode (s.toJson.without removed).render = .ok (s.without removed) :=
  Json.decodePlaced_render (s.reads_without removed) (s.readable_without removed)

/-- **Profile sets survive JSON**, whatever their texts, lists and ports are: a set that is written is read back as it
was. It is written with all of its five members, and with any of them taken out it is read as the set with exactly
those at their defaults. Of each profile an address is written exactly if there is one. -/
theorem sets_survive_json (s : ProfileSet) :
    decode s.toJson.render = .ok s ∧
      (∃ members, s.toJson = .object members ∧ members.map (·.1) =
        ["profiles", "enabled_profile_id", "http_proxy_port", "socks5_proxy_port", "api_server_port"]) ∧
      (∀ removed : List String, decode (s.toJson.without removed).render = .ok (s.without removed)) ∧
      ∀ p : Profile, p.toJson.get? "ai_server_url" = p.aiServerUrl.map .string ∧
        p.toJson.get? "tailscale_server_url" = p.tailscaleServerUrl.map .string := by
  refine ⟨?_, ⟨s.members, rfl, rfl⟩, s.decode_without, Profile.get?_toJson⟩
  have h := s.decode_without []
  rwa [toJson_without_nil, without_nil] at h

/-- A selection stays when the profiles are taken out, and then names none of them. -/
example : without ["profiles", "api_server_port"] ⟨[.create "p" "home" "https://home.example.com"], some "p", 1, 2, 3⟩ =
    ⟨[], some "p", 1, 2, 3010⟩ := by decide

end ProfileSet

end ProxyKeeper

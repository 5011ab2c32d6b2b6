import ProxyKeeper.Url.Host

/-!
URLs in their parsed form, and their text.
-/

namespace ProxyKeeper

open Url (Host)

inductive Url.Path where
  /-- A path whose text has no structure. -/
  | flat (text : String)
  | segments (names : List String)
  deriving Repr, DecidableEq, BEq

structure Url where
  scheme : String
  username : String
  password : String
  /-- None for a URL without two slashes behind its scheme. -/
  host : Option Host
  /-- None for the default port of the scheme. -/
  port : Option UInt16
  path : Url.Path
  query : Option String
  fragment : Option String
  deriving Repr, DecidableEq, BEq

namespace Url

/-- The schemes whose URLs have a host and a path in every case. -/
inductive SchemeKind where
  | file
  | special
  | other
  deriving Repr, DecidableEq

def schemeKind : String → SchemeKind
  | "http" | "https" | "ws" | "wss" | "ftp" => .special
  | "file" => .file
  | _ => .other

def SchemeKind.isSpecial : SchemeKind → Bool
  | .other => false
  | .file | .special => true

/-- The port that a scheme uses unless another is named. -/
def defaultPort? : String → Option UInt16
  | "http" | "ws" => some 80
  | "https" | "wss" => some 443
  | "ftp" => some 21
  | _ => none

/-- The port to connect to. -/
def effectivePort? (u : Url) : Option UInt16 := u.port.orElse fun _ => defaultPort? u.scheme

/-- User name and password in front of a host. -/
def credentials (u : Url) : String :=
  if u.username.isEmpty && u.password.isEmpty then ""
  else u.username ++ (if u.password.isEmpty then "" else ":" ++ u.password) ++ "@"

/-- A path as it stands behind a host; without a host it may not start with two slashes. -/
def pathText (u : Url) : String :=
  match u.path with
  | .flat text => text
  | .segments names =>
    let text := String.join (names.map ("/" ++ ·))
    if u.host.isNone && 1 < names.length && names.head? == some "" then "/." ++ text else text

def render (u : Url) : String :=
  u.scheme ++ ":"
    ++ (match u.host with
      | none => ""
      | some host =>
        "//" ++ u.credentials ++ host.render ++ (u.port.map fun p => s!":{p}").getD "")
    ++ u.pathText ++ (u.query.map ("?" ++ ·)).getD "" ++ (u.fragment.map ("#" ++ ·)).getD ""

end Url

end ProxyKeeper

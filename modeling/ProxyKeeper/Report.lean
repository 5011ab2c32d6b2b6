import ProxyKeeper.Engine.View
import ProxyKeeper.Event.Wire

/-!
What is printed of events and views: one line each, for people or as JSON.
-/

namespace ProxyKeeper.Report

inductive Format where
  | text
  | json
  deriving Repr, DecidableEq

structure Style where
  format : Format
  color : Bool
  deriving Repr, DecidableEq

/-! ## colours -/

/-- A text between two terminal codes. -/
def coloured (first last : String) (s : String) : String := s!"\x1b[{first}m{s}\x1b[{last}m"

def green : String → String := coloured "32" "39"

def red : String → String := coloured "31" "39"

def yellow : String → String := coloured "33" "39"

def dimmed : String → String := coloured "2" "0"

def Style.paint (style : Style) (painter : String → String) (s : String) : String :=
  if style.color then painter s else s

/-! ## times -/

/-- The last millisecond that a calendar up to the year 262142 knows. -/
def lastMilli : Nat := 8210266876799999

/-- A number below one hundred in two digits. -/
def twoDigits (n : Nat) : String := .ofList [Nat.digitChar (n / 10), Nat.digitChar (n % 10)]

/-- The time of day of a number of milliseconds since 1970. -/
def clock (millis : Nat) : String :=
  if millis ≤ lastMilli then
    let s := millis / 1000
    twoDigits (s / 3600 % 24) ++ ":" ++ twoDigits (s / 60 % 60) ++ ":" ++ twoDigits (s % 60)
  else "--:--:--"

/-! ## lines -/

/-- Where an event went: the host, and the port if there is one. -/
def target (e : Event) : String := if e.port = 0 then e.host else s!"{e.host}:{e.port}"

def event (style : Style) (e : Event) : String :=
  match style.format with
  | .json => e.encode
  | .text =>
    let time := clock e.requestTimeMillis.toNat
    match e.outcome with
    | .connected =>
      time ++ "  " ++ style.paint green "OK  " ++ s!"  {target e}  via {e.outbound}  {e.delayMillis}ms"
    | .failed diagnostic =>
      time ++ "  " ++ style.paint red "FAIL" ++ s!"  {target e}  via {e.outbound}  "
        ++ style.paint dimmed diagnostic

def instances (style : Style) (v : InstanceView) : String :=
  match style.format with
  | .json =>
    let failures := v.failed.map fun (id, message) =>
      Json.object [Json.entry "error" message, Json.entry "id" id]
    (Json.object
      [Json.entry "failed" v.failedCount, Json.entry "failures" failures,
        Json.entry "generation" v.generation, Json.entry "running" v.runningCount]).render
  | .text =>
    let summary := s!"generation {v.generation}: {v.runningCount} running, {v.failedCount} failed"
    if 0 < v.failedCount then style.paint yellow summary else summary

/-- The name of the profile that a view was made for. -/
def profileName? (v : ProfileView) : Option String :=
  (v.configUsed.bind ProfileSet.selectedProfile?).map (·.name)

def profile (style : Style) (v : ProfileView) : String :=
  match style.format with
  | .json =>
    (Json.object
      [Json.entry "error" v.failure?, Json.entry "event_port" v.activeEndpoint,
        Json.entry "generation" v.generation, Json.entry "profile" (profileName? v),
        Json.entry "running" v.isRunning]).render
  | .text =>
    match profileName? v, v.failure? with
    | _, some message => style.paint red s!"generation {v.generation}: failed: {message}"
    | some name, none =>
      if v.isRunning then
        s!"generation {v.generation}: profile '{name}' running, events on port "
          ++ toString (v.activeEndpoint.getD 0)
      else s!"generation {v.generation}: idle"
    | none, none => s!"generation {v.generation}: idle"

end ProxyKeeper.Report

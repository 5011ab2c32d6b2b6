import ProxyKeeper.Event.Basic
import ProxyKeeper.Json.Decode
import ProxyKeeper.Json.Member

/-!
The wire form of events: one JSON object per event, its kind in the member `type`. Writing uses one
spelling; reading also knows two older spellings of the times and a second name of the failed kind.

The kind may stand anywhere among the members. So the members are all read before any of them is
looked at, and what is wrong with them is reported without a place.
-/

namespace ProxyKeeper.Event

open Data

/-! ## writing -/

/-- The name of the member that tells the kinds apart. -/
def kindName : String := "type"

/-- An event as a JSON object, its members in their fixed order. -/
def toJson (e : Event) : Json :=
  let common : List (String × Json) :=
    [Json.entry "host" e.host, Json.entry "port" e.port, Json.entry "outbound" e.outbound,
      Json.entry "delay_millis" e.delayMillis.toNat,
      Json.entry "request_time_millis" e.requestTimeMillis.toNat]
  match e.outcome with
  | .connected => .object (Json.entry kindName "Connected" :: common)
  | .failed diagnostic =>
    .object (Json.entry kindName "Error" :: common ++ [Json.entry "error" diagnostic])

instance : ToJson Event := ⟨Event.toJson⟩

/-- The line that stands for an event. -/
def encode (e : Event) : String := e.toJson.render

/-! ## reading -/

inductive Kind where
  | connected
  | failed
  deriving Repr, DecidableEq

def Kind.ofName? : String → Option Kind
  | "Connected" => some .connected
  | "Error" => some .failed
  | "Failed" => some .failed
  | _ => none

/-- The kinds by all their names, as complaints list them. -/
def kindNames : List String := ["Connected", "Error", "Failed"]

/-- The kind that a datum names. -/
def takeKind {κ ι : Type} : Take κ ι Kind
  | .text mark name =>
    match Kind.ofName? name with
    | some kind => .ok kind
    | none => .error (.mismatch mark (.unknownVariant name kindNames))
  | d => Take.refuse "variant identifier" d

def takePort {κ ι : Type} : Take κ ι UInt16 := (Take.natural UInt16.size "u16").map Nat.toUInt16

def takeMillis {κ ι : Type} : Take κ ι UInt64 := (Take.natural UInt64.size "u64").map Nat.toUInt64

/-- The fields that both kinds have. -/
def sharedFields {κ ι : Type} : List (Field κ ι Event) :=
  [.of "host" .refused Take.text fun v e => { e with host := v },
    .of "port" .allowed takePort fun v e => { e with port := v },
    .of "outbound" .refused Take.text fun v e => { e with outbound := v },
    (Field.of "delay_millis" .refused takeMillis fun v e => { e with delayMillis := v }).also
      ["delay_mills"],
    (Field.of "request_time_millis" .refused takeMillis fun v e => { e with requestTimeMillis := v }).also
      ["request_time_mills"]]

/-- The members of an event of this kind. -/
def shape {κ ι : Type} : Kind → Shape κ ι Event
  | .connected => ⟨"struct variant EventRecord::Connected", sharedFields, ⟨"", 0, "", 0, 0, .connected⟩⟩
  | .failed =>
    ⟨"struct variant EventRecord::Failed",
      sharedFields ++ [.of "error" .refused Take.text fun v e => { e with outcome := .failed v }],
      ⟨"", 0, "", 0, 0, .failed ""⟩⟩

/-- The kind and the members of another name, in their order. -/
def splitKind {κ ι : Type} :
    List (κ × Option ι × String × Datum κ ι) → Option Kind →
      Except (Fault κ ι) (Option Kind × List (Unit × Option Empty × String × Plain))
  | [], kind => .ok (kind, [])
  | (mark, flaw, name, d) :: rest, kind => do
    if let some issue := flaw then throw (.unreadable issue)
    if name = kindName then
      if kind.isSome then throw (.mismatch mark (.duplicateField kindName))
      splitKind rest (some (← takeKind d))
    else
      let kept ← d.plain.mapError .unreadable
      let (kind, others) ← splitKind rest kind
      return (kind, ((), none, name, kept) :: others)

/-- The event of a kind that members put aside give; what is wrong with them has no place. -/
def ofAside {κ ι : Type} (kind : Kind) (d : Plain) : Except (Fault (Option κ) ι) Event :=
  match (shape kind).take d with
  | .ok e => .ok e
  | .error (.mismatch _ cause) => .error (.mismatch none cause)

/-- The event that a datum gives: an object with its kind among the members, or a list that starts
with the kind. -/
def take {κ ι : Type} : Datum κ ι → Except (Fault (Option κ) ι) Event
  | .fields _ members ending => do
    let (kind, others) ← (splitKind members none).mapError (·.mapMark some)
    let behind ←
      match ending with
      | .broken used _ _ => throw (.unreadable used)
      | .closed behind => pure (some behind)
      | .unreached => pure none
    match kind with
    | none => throw (.mismatch behind (.missingField kindName))
    | some kind => ofAside kind (.fields () others (.closed ()))
  | .list _ items ending =>
    match items with
    | [] =>
      match ending with
      | .broken used _ _ => throw (.unreadable used)
      | .closed behind => throw (.mismatch (some behind) (.missingField kindName))
      | .unreached => throw (.mismatch none (.missingField kindName))
    | (_, first) :: rest => do
      let kind ← (takeKind first).mapError (·.mapMark some)
      let kept ← (Datum.plainItems rest).mapError .unreadable
      match ending with
      | .broken used _ _ => throw (.unreadable used)
      | .closed _ | .unreached => ofAside kind (.list () kept (.closed ()))
  | d => (Take.refuse "internally tagged enum EventRecord" d).mapError (·.mapMark some)

/-- The event that a text stands for. -/
def decode (text : String) : Except Json.DecodeError Event := Json.decodeText take text.toList

/-- The event that a JSON value stands for. -/
def ofJson (v : Json) : Except Json.DecodeError Event :=
  match take v.sorted.plain with
  | .ok e => .ok e
  | .error (.mismatch (some _) cause) => .error ⟨.meaning .value cause, none⟩
  | .error (.mismatch none cause) => .error ⟨.meaning .aside cause, none⟩

end ProxyKeeper.Event

import ProxyKeeper.Data.Record
import ProxyKeeper.Json.Reader
import ProxyKeeper.Text.Quoted

/-!
Taking JSON for values of the program's own types, and the words for what goes wrong. From a text
every fault has its line and column, but for those that show only when a whole group of fields was
put aside before its meaning was looked at; from a JSON value none has.
-/

namespace ProxyKeeper.Json

open Data

/-- What a value is called in a complaint. -/
def foundLabel : Found → String
  | .null => "null"
  | .flag b => s!"boolean `{b}`"
  | .number (.float bits) => "floating point `" ++ writeNumber (.float bits) ++ "`"
  | .number n => "integer `" ++ writeNumber n ++ "`"
  | .text s => "string " ++ Text.quoted s
  | .letter c => "character `" ++ String.singleton c ++ "`"
  | .list => "sequence"
  | .fields => "map"

/-- Names in backticks: one, "a or b", or "one of" all. -/
def choice : List String → String
  | [a] => s!"`{a}`"
  | [a, b] => s!"`{a}` or `{b}`"
  | names => "one of " ++ ", ".intercalate (names.map fun a => s!"`{a}`")

/-- Where the elements of a list given by position were counted. -/
inductive Source where
  /-- In a JSON value. -/
  | value
  /-- In a group of fields that was put aside. -/
  | aside
  deriving Repr, DecidableEq

def mismatchMessage (source : Source) : Mismatch → String
  | .wrongType found expected => s!"invalid type: {foundLabel found}, expected {expected}"
  | .wrongValue found expected => s!"invalid value: {foundLabel found}, expected {expected}"
  | .tooShort length expected => s!"invalid length {length}, expected {expected}"
  | .tooLong length wanted =>
    match source with
    | .value => s!"invalid length {length}, expected fewer elements in array"
    | .aside =>
      s!"invalid length {length}, expected {wanted} element" ++ (if wanted = 1 then "" else "s")
        ++ " in sequence"
  | .unknownVariant name [] => s!"unknown variant `{name}`, there are no variants"
  | .unknownVariant name known => s!"unknown variant `{name}`, expected {choice known}"
  | .missingField name => s!"missing field `{name}`"
  | .duplicateField name => s!"duplicate field `{name}`"

/-- Why a JSON document gives no value. -/
inductive Reason where
  | form (defect : Defect)
  | meaning (source : Source) (cause : Mismatch)
  deriving Repr, DecidableEq

structure DecodeError where
  reason : Reason
  place : Option Position
  deriving Repr, DecidableEq

def DecodeError.message (e : DecodeError) : String :=
  (match e.reason with
  | .form defect => defect.message
  | .meaning source cause => mismatchMessage source cause)
  ++ (e.place.map Position.suffix).getD ""

/-- The error of a fault in a text; a mismatch without a mark is one that showed later. -/
def faultIn (text : List Char) : Fault (Option Nat) Issue → DecodeError
  | .unreadable issue => ⟨.form issue.defect, some (.of text issue.offset)⟩
  | .mismatch (some offset) cause => ⟨.meaning .value cause, some (.of text offset)⟩
  | .mismatch none cause => ⟨.meaning .aside cause, none⟩

/-- Takes a whole text for a value. -/
def decodeText {α : Type} (take : Datum Nat Issue → Except (Fault (Option Nat) Issue) α)
    (text : List Char) : Except DecodeError α :=
  let doc := Document.read text
  match take doc.root with
  | .error fault => .error (faultIn text fault)
  | .ok a =>
    match doc.surplus with
    | some issue => .error (faultIn text (.unreadable issue))
    | none => .ok a

/-- Takes a whole text for a value, every fault of which has a place. -/
def decodePlaced {α : Type} (take : Take Nat Issue α) (text : List Char) : Except DecodeError α :=
  decodeText (fun d => (take d).mapError (·.mapMark some)) text

/-- Takes a JSON value for a value of another type. -/
def decodeValue {α : Type} (take : Take Unit Empty α) (v : Json) : Except DecodeError α :=
  match take v.sorted.plain with
  | .ok a => .ok a
  | .error (.mismatch _ cause) => .error ⟨.meaning .value cause, none⟩

end ProxyKeeper.Json

import ProxyKeeper.CommandLine.Error
import ProxyKeeper.Feed.Error
import ProxyKeeper.Json.Decode
import ProxyKeeper.Json.Member

/-!
Errors as JSON objects: the kind of the error, its message, and what else is known.
-/

namespace ProxyKeeper

open Json (entry)

instance : ToJson Json.DecodeError where
  toJson e := .object [entry "error" "Json", entry "message" e.message]

def Failure.kind : Failure → String
  | .validation .. => "Validation"
  | .notFound .. => "NotFound"
  | .feed _ => "Feed"
  | .internal _ => "Internal"

instance : ToJson Failure where
  toJson f :=
    .object ([entry "error" f.kind, entry "message" f.message] ++
      match f with
      | .validation field reason => [entry "field" field, entry "reason" reason]
      | .notFound .. | .feed _ | .internal _ => [])

def Feed.Error.kind : Feed.Error → String
  | .invalidUrl _ => "InvalidUrl"
  | .invalidEndpoint .. => "InvalidEndpoint"
  | .connect _ => "WebSocketConnect"
  | .closed .. => "WebSocketClosed"
  | .undecodable .. => "Deserialization"

instance : ToJson Feed.Error where
  toJson e := .object [entry "error" e.kind, entry "message" e.message]

def Data.Mismatch.kind : Data.Mismatch → String
  | .wrongType .. => "InvalidType"
  | .wrongValue .. => "InvalidValue"
  | .tooShort .. | .tooLong .. => "InvalidLength"
  | .unknownVariant .. => "UnknownVariant"
  | .missingField _ => "MissingField"
  | .duplicateField _ => "DuplicateField"

def CommandLine.Error.kind : CommandLine.Error → String
  | .validation .. => "Validation"
  | .noKey _ => "NoKey"
  | .config .. => "Config"
  | .notFound .. => "NotFound"
  | .feed _ => "Feed"
  | .io _ => "Io"
  | .internal _ => "Internal"

/-- What the system or a reader says about a fault of a file is not told. -/
def CommandLine.Error.members (e : CommandLine.Error) : List (String × Json) :=
  [entry "error" e.kind, entry "exit_code" e.exitCode, entry "code" e.code] ++
    match e with
    | .config .. | .io _ => []
    | _ => [entry "message" e.message, entry "help" e.help?]

instance : ToJson CommandLine.Error := ⟨fun e => .object e.members⟩

end ProxyKeeper

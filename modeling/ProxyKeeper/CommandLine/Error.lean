import ProxyKeeper.Config.Wording

/-!
Errors as a user of the command line meets them: with an exit code, a code to look up, and advice.
-/

namespace ProxyKeeper.CommandLine

inductive Error where
  | validation (field reason : String)
  | noKey (instanceId : String)
  | config (path cause : String)
  | notFound (kind id : String)
  | feed (cause : String)
  | io (cause : String)
  | internal (cause : String)
  deriving Repr, DecidableEq

namespace Error

def message : Error → String
  | .validation field reason => s!"Invalid {field}: {reason}"
  | .noKey instanceId => s!"No key configured for instance '{instanceId}'"
  | .config _ cause => s!"Could not load configuration: {cause}"
  | .notFound kind id => s!"{kind} '{id}' not found"
  | .feed cause => s!"Event feed error: {cause}"
  | .io cause => s!"I/O error: {cause}"
  | .internal cause => s!"Internal error: {cause}"

/-- The exit code of the program: 3 for the configuration, 4 for what is not there, 7 for the feed,
1 for all else. -/
def exitCode : Error → Nat
  | .validation .. | .noKey _ | .config .. => 3
  | .notFound .. => 4
  | .feed _ => 7
  | .io _ | .internal _ => 1

/-- The name under which an error is documented. -/
def code : Error → String
  | .validation .. => "proxyhost::validation"
  | .noKey _ => "proxyhost::no_key"
  | .config .. => "proxyhost::config"
  | .notFound .. => "proxyhost::not_found"
  | .feed _ => "proxyhost::feed"
  | .io _ => "proxyhost::io"
  | .internal _ => "proxyhost::internal"

/-- Advice, where there is some. -/
def help? : Error → Option String
  | .validation .. =>
    some "Fix the value in your config file, then run: proxyhost config validate"
  | .noKey instanceId =>
    some ("Set `key_env` to an environment variable holding the key,\n"
      ++ s!"store it in the system keyring (service 'proxyhost', user '{instanceId}/key'),\n"
      ++ "or set `key` in the config file.")
  | .config path _ => some s!"Config file: {path}"
  | .feed _ => some "Check that the engine is running and its event API port is correct."
  | .notFound .. | .io _ | .internal _ => none

def ofFailure : Failure → Error
  | .validation field reason => .validation field reason
  | .notFound kind id => .notFound kind id
  | .feed cause => .feed cause
  | .internal cause => .internal cause

/-- The error of a configuration that was read from `path`. -/
def ofConfig (path : String) : Config.Error → Error
  | .validation field reason => .validation field reason
  | .noKey instanceId => .noKey instanceId
  | e => .config path e.message

end Error

end ProxyKeeper.CommandLine

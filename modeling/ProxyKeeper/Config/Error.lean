import ProxyKeeper.Data.Mismatch
import ProxyKeeper.Failure

/-!
What can be wrong with a configuration: a setting, a missing key, a document that does not have the
form or the meaning of a configuration, or a file that cannot be read or written.
-/

namespace ProxyKeeper.Config

open Data

inductive Error where
  | validation (field reason : String)
  | noKey (instanceId : String)
  | unwritable (cause : String)
  /-- The document is not well formed. -/
  | malformed (cause : String)
  /-- A setting has not the meaning that is wanted; the path leads to it. -/
  | mismatch (path : List String) (cause : Mismatch)
  | io (cause : String)
  deriving Repr, DecidableEq

/-- The same failure as a fault of the configuration. -/
def Error.ofFailure : Failure → Error
  | .validation field reason => .validation field reason
  | .notFound kind id => .validation kind s!"'{id}' does not exist"
  | failure => .validation "config" failure.message

end ProxyKeeper.Config

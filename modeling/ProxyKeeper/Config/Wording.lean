import ProxyKeeper.Config.Error
import ProxyKeeper.Decimal.Shortest
import ProxyKeeper.Text.Quoted

/-!
The words for what is wrong with a configuration.
-/

namespace ProxyKeeper.Config

open Data

/-- Binary numbers are written in full, without exponent and without a final `.0`. -/
def numberStyle : Decimal.Style := ⟨-400, 400, false, "", "NaN", "inf"⟩

/-- What a setting is called in a complaint. -/
def foundLabel : Found → String
  | .null => "unit"
  | .flag b => s!"bool {b}"
  | .number (.natural n) => s!"unsigned int `{n}`"
  | .number (.integer i) => s!"signed int `{i}`"
  | .number (.float bits) => "float `" ++ Decimal.write numberStyle bits ++ "`"
  | .text s => "string " ++ Text.quoted s
  | .letter c => "char " ++ Text.quotedChar c
  | .list => "sequence"
  | .fields => "map"

/-- Names in backticks: one, "a or b", or "one of" all. -/
def choice : List String → String
  | [a] => s!"`{a}`"
  | [a, b] => s!"`{a}` or `{b}`"
  | names => "one of " ++ ", ".intercalate (names.map fun a => s!"`{a}`")

def mismatchMessage : Mismatch → String
  | .wrongType found expected => s!"invalid type: found {foundLabel found}, expected {expected}"
  | .wrongValue found expected => s!"invalid value {foundLabel found}, expected {expected}"
  | .tooShort length expected => s!"invalid length {length}, expected {expected}"
  | .tooLong length wanted => s!"invalid length {length}, expected {wanted} elements in sequence"
  | .unknownVariant name known => s!"unknown variant: found `{name}`, expected `{choice known}`"
  | .missingField name => s!"missing field `{name}`"
  | .duplicateField name => s!"duplicate field `{name}`"

def Error.message : Error → String
  | .validation field reason => s!"invalid {field}: {reason}"
  | .noKey instanceId => s!"no key configured for instance '{instanceId}'"
  | .unwritable cause => s!"failed to serialize config: {cause}"
  | .malformed cause => s!"config loading failed: {cause}"
  | .mismatch path cause =>
    "config loading failed: " ++ mismatchMessage cause ++ " for key \"" ++ ".".intercalate path ++ "\""
  | .io cause => s!"IO error: {cause}"

end ProxyKeeper.Config

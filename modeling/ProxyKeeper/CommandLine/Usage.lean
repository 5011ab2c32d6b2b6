/-!
Why a command line is not carried out: it asks for help or for the version, or it is not well formed.
-/

namespace ProxyKeeper.CommandLine

inductive Usage where
  | help
  /-- The version, under the name of the command that was asked. -/
  | version (name : String)
  /-- Nothing was asked for, so help is shown. -/
  | missing
  | missingSubcommand
  | unknownSubcommand
  | unknownArgument
  /-- A value that is none of the words known, or that is missing or empty. -/
  | invalidValue
  /-- A value that is not a number in range. -/
  | badValue
  /-- A value for an option that takes none. -/
  | unwantedValue
  /-- An option that is given twice. -/
  | repeated
  | missingArgument
  deriving Repr, DecidableEq

namespace Usage

def kind : Usage → String
  | .help => "DisplayHelp"
  | .version _ => "DisplayVersion"
  | .missing => "DisplayHelpOnMissingArgumentOrSubcommand"
  | .missingSubcommand => "MissingSubcommand"
  | .unknownSubcommand => "InvalidSubcommand"
  | .unknownArgument => "UnknownArgument"
  | .invalidValue => "InvalidValue"
  | .badValue => "ValueValidation"
  | .unwantedValue => "TooManyValues"
  | .repeated => "ArgumentConflict"
  | .missingArgument => "MissingRequiredArgument"

/-- To ask for help or for the version is no mistake. -/
def exitCode : Usage → Nat
  | .help | .version _ => 0
  | _ => 2

end Usage

end ProxyKeeper.CommandLine

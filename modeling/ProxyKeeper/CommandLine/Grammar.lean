import ProxyKeeper.CommandLine.Options

/-!
The grammar of the command line: the levels that commands and their subcommands open, and what may
stand on each level.
-/

namespace ProxyKeeper.CommandLine

/-- A place in the tree of commands. -/
inductive Level where
  | top
  | run
  | events
  | config
  | configPath
  | configShow
  | configValidate
  | completions
  deriving Repr, DecidableEq, Inhabited

/-- The arguments by what they are for. -/
inductive ArgumentName where
  | configFile
  | output
  | color
  | verbose
  | logJson
  | logFile
  | mode
  | noEvents
  | stopAfter
  | port
  | window
  | limit
  | shell
  | help
  | version
  deriving Repr, DecidableEq, BEq

/-- What an argument takes. -/
inductive ValueKind where
  /-- Nothing; it may be given once. -/
  | flag
  /-- Nothing; it is counted. -/
  | count
  /-- A path, which is not empty. -/
  | path
  | word (known : List String)
  /-- A number of 16 bits, which may be written with a sign. -/
  | port
  /-- A number of 64 bits. -/
  | number
  | help
  | version
  deriving Repr, DecidableEq

def ValueKind.takesValue : ValueKind → Bool
  | .flag | .count | .help | .version => false
  | .path | .word _ | .port | .number => true

/-- An option with its long name and its letter. -/
structure OptionSpec where
  name : ArgumentName
  long : String
  short : Option Char
  kind : ValueKind

def words {α : Type} (names : List (String × α)) : ValueKind := .word (names.map (·.1))

/-- The options of every level. -/
def globalOptions : List OptionSpec :=
  [⟨.configFile, "config", none, .path⟩, ⟨.output, "output", some 'o', words formatNames⟩,
    ⟨.color, "color", none, words colorNames⟩, ⟨.verbose, "verbose", some 'v', .count⟩,
    ⟨.logJson, "log-json", none, .flag⟩, ⟨.logFile, "log-file", none, .path⟩,
    ⟨.help, "help", some 'h', .help⟩, ⟨.version, "version", some 'V', .version⟩]

/-- The variable that gives the configuration file where no option does. -/
def configVariable : String := "PROXYHOST_CONFIG_FILE"

def helpName : String := "help"

namespace Level

/-- The options of a level. -/
def options : Level → List OptionSpec
  | .run =>
    globalOptions ++
      [⟨.mode, "mode", some 'm', words modeNames⟩, ⟨.noEvents, "no-events", none, .flag⟩,
        ⟨.stopAfter, "stop-after", none, .number⟩]
  | .events =>
    globalOptions ++
      [⟨.port, "port", some 'p', .port⟩, ⟨.window, "batch-ms", none, .number⟩,
        ⟨.limit, "limit", some 'n', .number⟩]
  | .top | .config | .configPath | .configShow | .configValidate | .completions => globalOptions

/-- The argument that a level takes by position. -/
def positional? : Level → Option (ArgumentName × ValueKind)
  | .completions => some (.shell, words shellNames)
  | _ => none

/-- What must be given on a level. -/
def required : Level → List ArgumentName
  | .events => [.port]
  | .completions => [.shell]
  | _ => []

/-- The subcommands of a level by all their names. -/
def subcommands : Level → List (String × Level)
  | .top =>
    [("run", .run), ("events", .events), ("ev", .events), ("config", .config),
      ("completions", .completions)]
  | .config => [("path", .configPath), ("show", .configShow), ("validate", .configValidate)]
  | _ => []

def subcommand? (l : Level) (name : String) : Option Level :=
  (l.subcommands.find? (·.1 == name)).map (·.2)

/-- Whether a level has subcommands, one of which must then be given. -/
def hasSubcommands (l : Level) : Bool := !l.subcommands.isEmpty

/-- Whether a word opens another level; where there are subcommands, there is help about them. -/
def opens (l : Level) (name : String) : Bool :=
  l.hasSubcommands && (name == helpName || (l.subcommand? name).isSome)

/-- The name under which a command shows its version. -/
def displayName : Level → String
  | .top => "proxyhost"
  | .run => "proxyhost-run"
  | .events => "proxyhost-events"
  | .config => "proxyhost-config"
  | .configPath => "proxyhost-config-path"
  | .configShow => "proxyhost-config-show"
  | .configValidate => "proxyhost-config-validate"
  | .completions => "proxyhost-completions"

def long? (l : Level) (name : String) : Option OptionSpec := l.options.find? (·.long == name)

def short? (l : Level) (letter : Char) : Option OptionSpec :=
  l.options.find? (·.short == some letter)

end Level

end ProxyKeeper.CommandLine

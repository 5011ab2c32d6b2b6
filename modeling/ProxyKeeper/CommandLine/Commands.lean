import ProxyKeeper.CommandLine.Arguments
import ProxyKeeper.CommandLine.Events
import ProxyKeeper.CommandLine.Run
import ProxyKeeper.CommandLine.Summary
import ProxyKeeper.Config.Location

/-!
The commands of the program: what each prints, and how it ends.
-/

namespace ProxyKeeper.CommandLine

/-- What a command is carried out in. -/
structure Surroundings where
  environment : Environment
  /-- The text of a file; none if there is no such file. -/
  file : String → Option String
  /-- Whether the standard output is a terminal. -/
  terminal : Bool
  memory : Memory

/-- How a command ends. -/
inductive Ending where
  | finished
  | stopped (cause : Stop Error)
  /-- It goes on until it is interrupted. -/
  | running

structure Outcome where
  stdout : String := ""
  stderr : String := ""
  /-- The seconds that pass before the command ends. -/
  delay : Nat := 0
  ending : Ending := .finished

/-- The configuration file in effect. -/
def configPath (env : Environment) (o : Options) : String := o.config.getD (Config.defaultPath env)

def loadConfig (s : Surroundings) (o : Options) : Except Error Config :=
  let path := configPath s.environment o
  (Config.load (s.file path) s.environment).mapError (.ofConfig path)

def styleOf (s : Surroundings) (o : Options) : Report.Style :=
  ⟨o.output,
    match o.color with
    | .auto => s.terminal
    | .always => true
    | .never => false⟩

/-- The names that a shell offers behind the name of the program. -/
def commandNames : String := "run events config completions help"

/-- A script by which a shell completes the names of commands. -/
def completionScript : Shell → String
  | .bash => "complete -W '" ++ commandNames ++ "' proxyhost\n"
  | .elvish =>
    "set edit:completion:arg-completer[proxyhost] = \x7b|@words| put " ++ commandNames ++ " \x7d\n"
  | .fish => "complete -c proxyhost -f -a '" ++ commandNames ++ "'\n"
  | .powershell =>
    "Register-ArgumentCompleter -Native -CommandName proxyhost -ScriptBlock \x7b '"
      ++ commandNames ++ "'.Split() \x7d\n"
  | .zsh => "#compdef proxyhost\n_arguments '1: :(" ++ commandNames ++ ")'\n"

/-- Ends before its end, or with what follows. -/
def Outcome.ofExcept (r : Except (Stop Error) Outcome) : Outcome :=
  match r with
  | .ok o => o
  | .error cause => { ending := .stopped cause }

def performConfig (s : Surroundings) (o : Options) : ConfigCommand → Except Error Outcome
  | .path => return { stdout := joinLines [configPath s.environment o] }
  | .show => do return { stdout := summary (← loadConfig s o) }
  | .validate => do
    let c ← loadConfig s o
    let path := configPath s.environment o
    (Config.validate s.environment c).mapError (.ofConfig path)
    let counts := s!"({c.instances.length} instances, {c.profiles.length} profiles)"
    return { stdout := joinLines [path ++ ": ok " ++ counts] }

def performRun (s : Surroundings) (o : Options) (r : RunOptions) : Except (Stop Error) Outcome := do
  let c ← (loadConfig s o).mapError .failed
  let t ← run s.memory s.environment (configPath s.environment o) (styleOf s o) r c
  return { stdout := joinLines t.lines, stderr := joinLines t.errors, delay := r.stopAfter.getD 0
           ending := if r.stopAfter.isSome then .finished else .running }

/-- Prints the events of a feed, which are none as long as the feed cannot be reached. -/
def performEvents (s : Surroundings) (o : Options) (e : EventsOptions) : Except (Stop Error) Outcome := do
  if e.port = 0 then throw (.failed (.validation "port" "must be between 1 and 65535"))
  let c ← (loadConfig s o).mapError .failed
  let settings ← (eventSettings (configPath s.environment o) c e).mapError .failed
  let _ ← (Ingestion.allocate s.memory settings).mapError .crashed
  return { ending := .running }

def perform (s : Surroundings) (o : Options) : Command → Outcome
  | .run r => .ofExcept (performRun s o r)
  | .events e => .ofExcept (performEvents s o e)
  | .config c => .ofExcept ((performConfig s o c).mapError .failed)
  | .completions shell => { stdout := completionScript shell }

/-! ## the program -/

def version : String := "0.1.0"

def helpText : String :=
  "Run proxy engine instances and watch their event feed\n\n"
    ++ "Usage: proxyhost [OPTIONS] <COMMAND>\n\n"
    ++ "Commands:\n"
    ++ "  run          Run the configured instances until interrupted\n"
    ++ "  events       Stream events from a running engine's feed\n"
    ++ "  config       Inspect the configuration\n"
    ++ "  completions  Generate shell completions\n"
    ++ "  help         Print this message or the help of the given subcommand(s)\n"

/-- What the program prints and the code with which it exits; `none` as long as it goes on. -/
structure Exit where
  stdout : String := ""
  stderr : String := ""
  /-- The seconds that pass between the output and the exit. -/
  delay : Nat := 0
  code : Option Nat

def answerUsage (u : Usage) : Exit :=
  let code := some u.exitCode
  match u with
  | .help => { stdout := helpText, code }
  | .version name => { stdout := name ++ " " ++ version ++ "\n", code }
  | .missing => { stderr := helpText, code }
  | u => { stderr := "error: " ++ u.kind ++ "\n", code }

/-- The text of an error on the terminal. -/
def errorText (e : Error) : String :=
  joinLines ([e.code, "", "  × " ++ e.message] ++ (e.help?.map ("  help: " ++ ·)).toList)

/-- The whole program. -/
def program (s : Surroundings) (args : List String) : Exit :=
  match parse s.environment args with
  | .error u => answerUsage u
  | .ok (o, command) =>
    let out := perform s o command
    let (stderr, code) :=
      match out.ending with
      | .finished => (out.stderr, some 0)
      | .stopped (.failed cause) => (out.stderr ++ errorText cause, some cause.exitCode)
      | .stopped (.crashed cause) => (out.stderr ++ joinLines [cause.message], some cause.exitCode)
      | .running => (out.stderr, none)
    { stdout := out.stdout, stderr, delay := out.delay, code }

end ProxyKeeper.CommandLine

import ProxyKeeper.CommandLine.Grammar
import ProxyKeeper.CommandLine.Usage
import ProxyKeeper.Config.Environment
import ProxyKeeper.Text.Digits

/-!
Reading a command line. The arguments are read from left to right; the name of a subcommand opens
the next level, to which all further arguments belong. The value of an option is looked at when the
next option comes or the level ends, so a mistake on a deeper level is found before a bad value that
stands last on the level above.
-/

namespace ProxyKeeper.CommandLine

/-! ## values -/

/-- A number that may have a sign. -/
def readSigned (s : List Char) : Option Int :=
  match s with
  | '-' :: rest => (Text.readDigits 10 rest).map fun n => -n
  | '+' :: rest => (Text.readDigits 10 rest).map Int.ofNat
  | s => (Text.readDigits 10 s).map Int.ofNat

/-- A number below the bound that may have a plus in front. -/
def readUnsigned (bound : Nat) (s : List Char) : Option Nat :=
  match s with
  | '+' :: rest => Text.readDecimal bound rest
  | s => Text.readDecimal bound s

def isPort (text : String) : Bool :=
  (readSigned text.toList).any fun i => 0 ≤ i && i.toNat < UInt16.size

/-- Refuses a value that an argument cannot take. -/
def ValueKind.check (text : String) : ValueKind → Except Usage Unit
  | .path => if text.isEmpty then .error .invalidValue else .ok ()
  | .word known => if known.contains text then .ok () else .error .invalidValue
  | .port => if isPort text then .ok () else .error .badValue
  | .number => if (readUnsigned UInt64.size text.toList).isSome then .ok () else .error .badValue
  | .flag | .count | .help | .version => .ok ()

/-! ## what is found on a level -/

/-- Where the value of an argument is from; the command line counts more than the environment. -/
inductive Source where
  | environment
  | commandLine
  deriving Repr, DecidableEq

structure Found where
  source : Source
  text : String
  /-- How often the argument was given. -/
  count : Nat := 1
  deriving Repr

/-- The arguments found on a level. -/
abbrev Matches := List (ArgumentName × Found)

def Matches.get? (m : Matches) (name : ArgumentName) : Option Found :=
  (m.find? (·.1 == name)).map (·.2)

/-- The argument read last, as long as its value has not been looked at. -/
inductive Pending where
  | nothing
  /-- An option whose value is to come. -/
  | wanting (name : ArgumentName)
  | given (name : ArgumentName) (kind : ValueKind) (text : String)
  deriving Repr

structure Progress where
  found : Matches := []
  pending : Pending := .nothing
  /-- How many arguments were taken by position. -/
  taken : Nat := 0
  /-- Whether everything that follows is taken by position. -/
  trailing : Bool := false

namespace Progress

/-- Adds an argument that must not be there yet. -/
def add (name : ArgumentName) (kind : ValueKind) (text : String) (p : Progress) :
    Except Usage Progress := do
  if (p.found.get? name).isSome then throw .repeated
  kind.check text
  return { p with found := p.found ++ [(name, ⟨.commandLine, text, 1⟩)], pending := .nothing }

/-- Looks at the value that is pending. -/
def resolve (p : Progress) : Except Usage Progress :=
  match p.pending with
  | .nothing => .ok p
  | .wanting _ => .error .invalidValue
  | .given name kind text => p.add name kind text

/-- Counts an argument once more. -/
def increment (name : ArgumentName) (p : Progress) : Progress :=
  let count := ((p.found.get? name).map (·.count)).getD 0
  { p with found := p.found.filter (·.1 != name) ++ [(name, ⟨.commandLine, "", count + 1⟩)] }

/-- An option that takes no value. -/
def flag (l : Level) (o : OptionSpec) (p : Progress) : Except Usage Progress := do
  let p ← p.resolve
  match o.kind with
  | .help => throw .help
  | .version => throw (.version l.displayName)
  | .count => return p.increment o.name
  | _ => p.add o.name o.kind ""

/-- An option that takes a value, with what is attached to it. -/
def valued (o : OptionSpec) (attached : Option String) (p : Progress) : Except Usage Progress := do
  let p ← p.resolve
  match attached with
  | some text => p.add o.name o.kind text
  | none => return { p with pending := .wanting o.name }

/-- An argument behind two dashes. -/
def long (l : Level) (text : List Char) (p : Progress) : Except Usage Progress :=
  let name := text.takeWhile (· ≠ '=')
  let attached := (text.dropWhile (· ≠ '=')).tail?.map String.ofList
  match l.long? (.ofList name) with
  | none => .error .unknownArgument
  | some o =>
    if o.kind.takesValue then p.valued o attached
    else if attached.isSome then .error .unwantedValue
    else p.flag l o

/-- Letters behind one dash; what follows the letter of an option with a value is the value. -/
def shorts (l : Level) : List Char → Progress → Except Usage Progress
  | [], p => .ok p
  | c :: rest, p =>
    match l.short? c with
    | none => .error .unknownArgument
    | some o =>
      if o.kind.takesValue then
        p.valued o
          (match rest with
          | [] => none
          | '=' :: text => some (.ofList text)
          | text => some (.ofList text))
      else do shorts l rest (← p.flag l o)

/-- The kind of the option whose value is wanted. -/
def kindOf (l : Level) (name : ArgumentName) : ValueKind :=
  ((l.options.find? (·.name == name)).map (·.kind)).getD .flag

/-- An argument that is taken by position, or by an option that wants a value. -/
def plain (l : Level) (text : String) (p : Progress) : Except Usage Progress :=
  match p.pending, p.trailing with
  | .wanting name, false => .ok { p with pending := .given name (kindOf l name) text }
  | _, _ =>
    match l.positional?, p.taken with
    | some (name, kind), 0 => do
      let p ← p.resolve
      return { p with pending := .given name kind text, taken := 1 }
    | _, _ =>
      if p.trailing && l.opens text then .error .unknownArgument
      else if l.hasSubcommands then .error .unknownSubcommand
      else .error .unknownArgument

/-- The end of a level: the environment fills in, and what must be given is looked for. -/
def finish (l : Level) (env : Environment) (hasSubcommand : Bool) (p : Progress) :
    Except Usage Matches := do
  let p ← p.resolve
  let found ←
    match (p.found.get? .configFile), env.get? configVariable with
    | none, some text => do
      ValueKind.check text .path
      pure (p.found ++ [(.configFile, ⟨.environment, text, 1⟩)])
    | _, _ => pure p.found
  if l.hasSubcommands && !hasSubcommand then
    throw (if found.isEmpty then .missing else .missingSubcommand)
  if l.required.any fun name => (found.get? name).isNone then throw .missingArgument
  return found

end Progress

/-! ## levels -/

/-- The commands that help is asked about. -/
def helpAbout : Level → List String → Usage
  | _, [] => .help
  | l, name :: rest =>
    match l.subcommand? name with
    | some inner => helpAbout inner rest
    | none => if name = helpName ∧ l.hasSubcommands ∧ rest.isEmpty then .help else .unknownSubcommand

/-- What was found on each level, the first one first. -/
abbrev Levels := List (Level × Matches)

/-- Reads the arguments of a level and of those below it. -/
def readLevel (env : Environment) : List String → Level → Progress → Except Usage Levels
  | [], l, p => do return [(l, ← p.finish l env false)]
  | arg :: rest, l, p => do
    let wanting := match p.pending with
      | .wanting _ => true
      | _ => false
    let isName := !p.trailing && !wanting
    if isName && l.hasSubcommands && arg = helpName then throw (helpAbout l rest)
    match if isName then l.subcommand? arg else none with
    | some inner =>
      let deeper ← readLevel env rest inner {}
      return (l, ← p.finish l env true) :: deeper
    | none =>
      let p ←
        if p.trailing then p.plain l arg
        else
          match arg.toList with
          | ['-', '-'] => pure { p with trailing := true }
          | '-' :: '-' :: text => p.long l text
          | '-' :: c :: text => p.shorts l (c :: text)
          | _ => p.plain l arg
      readLevel env rest l p

/-! ## the command -/

namespace Levels

/-- The value of a global option: the deepest one, unless one above counts more. -/
def global? (levels : Levels) (name : ArgumentName) : Option Found :=
  levels.foldl (fun best (_, m) =>
    match best, m.get? name with
    | some b, some f => if b.source = .commandLine ∧ f.source = .environment then some b else some f
    | none, some f => some f
    | best, none => best) none

/-- The value among the words that an option knows. -/
def word {α : Type} (names : List (String × α)) (found : Option Found) : Option α :=
  found.bind fun f => (names.find? (·.1 == f.text)).map (·.2)

def options (levels : Levels) : Options :=
  { config := (levels.global? .configFile).map (·.text)
    output := (word formatNames (levels.global? .output)).getD .text
    color := (word colorNames (levels.global? .color)).getD .auto
    verbose := min (((levels.global? .verbose).map (·.count)).getD 0) 255
    logJson := (levels.global? .logJson).isSome
    logFile := (levels.global? .logFile).map (·.text) }

def number (found : Option Found) : Option Nat :=
  found.bind fun f => readUnsigned UInt64.size f.text.toList

/-- The command of the deepest level. -/
def command? (levels : Levels) : Option Command :=
  levels.getLast?.bind fun (l, m) =>
    match l with
    | .run =>
      some (.run ⟨word modeNames (m.get? .mode), (m.get? .noEvents).isSome, number (m.get? .stopAfter)⟩)
    | .events => do
      let port ← readSigned (← m.get? .port).text.toList
      return .events ⟨port.toNat.toUInt16, number (m.get? .window), number (m.get? .limit)⟩
    | .configPath => some (.config .path)
    | .configShow => some (.config .show)
    | .configValidate => some (.config .validate)
    | .completions => (word shellNames (m.get? .shell)).map .completions
    | .top | .config => none

end Levels

/-- What a command line asks for. -/
def parse (env : Environment) (args : List String) : Except Usage (Options × Command) := do
  let levels ← readLevel env args .top {}
  match levels.command? with
  | some command => return (levels.options, command)
  | none => throw .missingSubcommand

end ProxyKeeper.CommandLine

import ProxyKeeper.Config.Basic
import ProxyKeeper.Report

/-!
What a user can ask for on the command line.
-/

namespace ProxyKeeper.CommandLine

inductive ColorMode where
  /-- Colours if the output is a terminal. -/
  | auto
  | always
  | never
  deriving Repr, DecidableEq, Inhabited

/-- The options that every command knows. -/
structure Options where
  /-- The path of the configuration file, if it is not the usual one. -/
  config : Option String := none
  output : Report.Format := .text
  color : ColorMode := .auto
  verbose : Nat := 0
  logJson : Bool := false
  logFile : Option String := none
  deriving Repr, DecidableEq

structure RunOptions where
  /-- Overrides the mode of the configuration. -/
  mode : Option Config.Mode := none
  noEvents : Bool := false
  /-- After how many seconds to end. -/
  stopAfter : Option Nat := none
  deriving Repr, DecidableEq

structure EventsOptions where
  port : UInt16
  /-- Overrides the window of the configuration, in milliseconds. -/
  window : Option Nat := none
  /-- After how many events to end. -/
  limit : Option Nat := none
  deriving Repr, DecidableEq

inductive ConfigCommand where
  | path
  | «show»
  | validate
  deriving Repr, DecidableEq

inductive Shell where
  | bash
  | elvish
  | fish
  | powershell
  | zsh
  deriving Repr, DecidableEq

inductive Command where
  | run (options : RunOptions)
  | events (options : EventsOptions)
  | config (command : ConfigCommand)
  | completions (shell : Shell)
  deriving Repr, DecidableEq

/-! ## words for values -/

def formatNames : List (String × Report.Format) := [("text", .text), ("json", .json)]

def colorNames : List (String × ColorMode) :=
  [("auto", .auto), ("always", .always), ("never", .never)]

def modeNames : List (String × Config.Mode) := [("instances", .instances), ("profile", .profile)]

def shellNames : List (String × Shell) :=
  [("bash", .bash), ("elvish", .elvish), ("fish", .fish), ("powershell", .powershell), ("zsh", .zsh)]

end ProxyKeeper.CommandLine

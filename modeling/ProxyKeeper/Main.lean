import ProxyKeeper.CommandLine.Commands

/-!
The executable. It reads the arguments, the environment and the configuration file, prints what the
program answers, and exits with its code. A program that goes on waits to be interrupted.
-/

namespace ProxyKeeper.CommandLine

/-- The file in which the system keeps the environment of the process. -/
def environmentPath : String := "/proc/self/environ"

/-- A variable from its entry; the name begins the entry, so an equals sign in front belongs to it. -/
def readVariable? (entry : List Char) : Option (String × String) :=
  match entry with
  | [] => none
  | first :: rest =>
    (Text.cutAt '=' rest).map fun (name, value) => (String.ofList (first :: name), String.ofList value)

/-- The environment from its entries, each of which ends with a NUL. -/
def readEnvironment (text : String) : Environment :=
  (Text.splitAt '\x00' text.toList).filterMap readVariable?

def readText? (path : String) : IO (Option String) := do
  try
    return String.fromUTF8? (← IO.FS.readBinFile path)
  catch _ => return none

def waitForever : IO Unit := do
  repeat IO.sleep 1000

end ProxyKeeper.CommandLine

open ProxyKeeper CommandLine in
def main (args : List String) : IO UInt32 := do
  let environment := readEnvironment ((← readText? environmentPath).getD "")
  let config : Option String :=
    match parse environment args with
    | .ok (o, _) => some (configPath environment o)
    | .error _ => none
  let text ← match config with
    | some path => readText? path
    | none => pure none
  let terminal ← (← IO.getStdout).isTty
  let exit := program ⟨environment, fun path => if some path = config then text else none, terminal, .ample⟩ args
  IO.print exit.stdout
  (← IO.getStdout).flush
  IO.sleep (exit.delay * 1000).toUInt32
  IO.eprint exit.stderr
  match exit.code with
  | some code => return code.toUInt32
  | none =>
    waitForever
    return 0
